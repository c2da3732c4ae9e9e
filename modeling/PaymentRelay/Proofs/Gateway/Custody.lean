import PaymentRelay.Proofs.Gateway.Faithful
import PaymentRelay.Proofs.Gateway.Labels
import PaymentRelay.Proofs.Gateway.Weight

/-!
# Who may hold a payload

Some payloads were handed in, and others are a caller's, who waits for what becomes of them. The two
never mix: a caller's payload is never in the retry queue and never in the hands of a task that
sweeps, and no other payload is ever in the hands of a caller's task. So a payload tells by what it
is, whichever way it takes through the gateway, which tasks may hold it and what may become of it.
-/

namespace PaymentRelay

namespace Gateway

variable {α : Type}

/-! ## Tasks of one payload -/

/-- A task that does not draw on the retry queue is over, or attempts its only payload. -/
def Shaped (t : Task α) : Prop :=
  t.role.isSweeping = false →
    t.activity = .finished ∨ ∃ attempt taken, t.activity = .trying attempt [] taken

theorem shaped_turn [Parcel α] (g : Gateway α) (t u : Task α) (turn : Turn g t u)
    (h : Shaped t) : Shaped u := by
  cases turn with
  | stay => exact h
  | wake =>
    intro single
    rw [Task.wake_role] at single
    obtain ⟨role, activity⟩ := t
    rcases h single with past | ⟨attempt, taken, trying⟩
    · cases past
      exact Or.inl rfl
    · cases trying
      exact Or.inr ⟨_, taken, rfl⟩
  | look =>
    intro single
    rcases h single with past | ⟨attempt, taken, trying⟩
    · cases past
    · cases trying
      exact Or.inr ⟨_, _, rfl⟩
  | settle role attempt rest taken =>
    intro single
    rcases h single with past | ⟨attempt, taken, trying⟩
    · cases past
    · cases trying
      cases role with
      | dispatch => exact Or.inl rfl
      | single => exact Or.inl rfl
      | sweep => cases single
      | worker => cases single
  | fetch role =>
    intro single
    rcases h single with past | ⟨attempt, taken, trying⟩
    · cases past
    · cases trying
  | rise role =>
    intro single
    rcases h single with past | ⟨attempt, taken, trying⟩
    · cases past
    · cases trying

theorem shaped_begun (event : Event α) (u : Task α) (h : event.begun? = some u) : Shaped u := by
  intro single
  cases event <;> cases h
  · exact Or.inr ⟨_, 0, rfl⟩
  · exact Or.inr ⟨_, 0, rfl⟩
  · cases single
  · cases single

theorem shaped_run [Parcel α] {terms : Terms} {events : List (Event α)} {i : Nat} {t : Task α}
    (there : ((new terms).run events).1.tasks[i]? = some t) : Shaped t :=
  forall_tasks_run (fun event _ ↦ shaped_begun event) shaped_turn
    (fun i t there ↦ by cases there) there

/-! ## Whose payloads are where -/

/-- The payloads in the hands of the tasks that have such a role. -/
def inHands (g : Gateway α) (p : Role → Bool) : List α :=
  g.tasks.toList.flatMap fun t ↦ if p t.role then t.payloads else []

/-- How many tasks with a payload that was handed in are not over. -/
def dispatching (g : Gateway α) : Nat :=
  g.tasks.toList.countP fun t ↦ t.role == .dispatch && !(t.activity matches .finished)

/-- Callers' payloads are in callers' tasks alone, and no others are there. -/
structure Apart (guest : α → Bool) (g : Gateway α) : Prop where
  shaped : ∀ (i : Nat) (t : Task α), g.tasks[i]? = some t → Shaped t
  queue : ∀ p ∈ g.queue.entries, guest p = false
  tasks : ∀ (i : Nat) (t : Task α), g.tasks[i]? = some t → ∀ p ∈ t.payloads,
    guest p = (t.role == .single)

/-- The event hands in a caller's payload if and only if it does so for a caller. -/
def Event.Apart (guest : α → Bool) (event : Event α) : Prop :=
  (∀ p, event = .ingest p → guest p = false) ∧ ∀ p, event = .process p → guest p = true

section Apart

variable [Parcel α] {guest : α → Bool} {g : Gateway α} {event : Event α}

omit [Parcel α] in
theorem guest_of_offered (apart : Apart guest g) (proper : event.Apart guest) {p : α}
    (h : Offered g event p) : guest p = false := by
  cases h with
  | ingested h => exact proper.1 p h
  | failed there unowned =>
    rw [apart.tasks _ _ there _ List.mem_cons_self]
    exact beq_eq_false_iff_ne.mpr unowned

theorem apart_turn (queue : ∀ p ∈ g.queue.entries, guest p = false) {t u : Task α}
    (shaped : Shaped t) (turn : Turn g t u) (h : ∀ p ∈ t.payloads, guest p = (t.role == .single)) :
    ∀ p ∈ u.payloads, guest p = (u.role == .single) := by
  cases turn with
  | stay => exact h
  | wake =>
    rw [Task.wake_payloads, Task.wake_role]
    exact h
  | look => exact h
  | settle role attempt rest taken =>
    rw [payloads_next]
    exact fun p mem ↦ h p (List.mem_cons_of_mem _ mem)
  | fetch role =>
    rw [payloads_next]
    intro p mem
    rw [queue p (mem_of_mem_batch mem)]
    -- what takes a batch is no caller's task, whose only payload came with it
    refine (beq_eq_false_iff_ne.mpr fun single ↦ ?_).symm
    cases single
    rcases shaped rfl with past | ⟨attempt, taken, trying⟩
    · cases past
    · cases trying
  | rise role => exact h

theorem apart_step (proper : event.Apart guest) (apart : Apart guest g) :
    Apart guest (g.step event).1 := by
  constructor
  · intro i u there
    rcases turn_step there with ⟨t, before, turn⟩ | ⟨-, new⟩
    · exact shaped_turn g t u turn (apart.shaped i t before)
    · exact shaped_begun event u new
  · intro p mem
    rcases mem_queue_step mem with before | offered
    · exact apart.queue p before
    · exact guest_of_offered apart proper offered
  · intro i u there
    rcases turn_step there with ⟨t, before, turn⟩ | ⟨-, new⟩
    · exact apart_turn apart.queue (apart.shaped i t before) turn (apart.tasks i t before)
    · intro p mem
      cases event <;> cases new
      · rw [List.mem_singleton.mp mem]
        exact proper.1 _ rfl
      · rw [List.mem_singleton.mp mem]
        exact proper.2 _ rfl
      · cases mem
      · cases mem

theorem apart_run {terms : Terms} {events : List (Event α)}
    (proper : ∀ event ∈ events, event.Apart guest) : Apart guest ((new terms).run events).1 := by
  refine run_induction (fun g event mem ↦ apart_step (proper event mem)) ⟨?_, ?_, ?_⟩
  · intro i t there
    cases there
  · intro p mem
    exact absurd mem (Array.not_mem_empty p)
  · intro i t there
    cases there

/-- What says no payment or finds the queue full is no caller's, and only a caller gets a payload
back. -/
theorem guest_of_end {fate : Fate} {p : α} {effect : Effect α} (proper : event.Apart guest)
    (apart : Apart guest g) (h : effect ∈ (g.step event).2) (past : effect.end? = some (fate, p)) :
    fate = .recorded ∨ guest p = (fate == .returned) := by
  cases arises_of_mem_step h with
  | recorded there answered =>
    cases past
    exact Or.inl rfl
  | discarded there unowned looked =>
    cases past
    refine Or.inr ?_
    rw [apart.tasks _ _ there _ List.mem_cons_self]
    exact beq_eq_false_iff_ne.mpr unowned
  | returned there =>
    cases past
    refine Or.inr ?_
    rw [apart.tasks _ _ there _ List.mem_cons_self]
    rfl
  | enqueued offered done =>
    rcases mem_enqueue_snd done with rfl | ⟨report, rfl⟩
    · cases past
    · cases past
      exact Or.inr (guest_of_offered apart proper offered)
  | _ => cases past

end Apart

end Gateway

end PaymentRelay
