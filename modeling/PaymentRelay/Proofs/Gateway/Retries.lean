import Mathlib.Algebra.Order.BigOperators.Group.List
import Mathlib.Algebra.Order.Group.Nat
import Mathlib.Data.List.Nodup
import PaymentRelay.Proofs.Gateway.Calls
import PaymentRelay.Proofs.Gateway.Conservation
import PaymentRelay.Proofs.Gateway.Moves

/-!
# Retried before dropped

What the retry queue has accepted leaves it in batches and in no other way; nothing is pushed out to
make room. So before a payload can find the queue full it was taken out by a task, and was attempted
by it, and that attempt failed in a call, for only then is a payload offered to the queue again.

To say this of a single payload the payloads are numbered. While a payload is in the queue no call
for it is under way, because a payload is in one place; when it is dropped, one is; and calls do not
come from nowhere.
-/

namespace PaymentRelay.Gateway

variable {α : Type}

/-! ## One fate at a step -/

section Steps

variable [Parcel α] {g : Gateway α} {event : Event α}

/-- The moves of a step, if there are any, are one move and what its task goes on to. -/
theorem moves_eq (g : Gateway α) (event : Event α) :
    g.moves event = [] ∨ ∃ m task rest, g.moves event = m :: takeUp task rest := by
  cases event with
  | ingest payload =>
    rw [moves]
    split
    · exact .inr ⟨.refused payload, 0, [], rfl⟩
    · exact .inr ⟨_, _, _, rfl⟩
  | process payload => exact .inr ⟨_, _, _, rfl⟩
  | run task requestedAt =>
    rw [moves]
    split
    · split
      · exact .inl rfl
      · exact .inr ⟨_, _, _, rfl⟩
    · exact .inr ⟨_, _, _, rfl⟩
    · exact .inl rfl
  | answer task outcome =>
    rw [moves]
    split
    · exact .inr ⟨_, _, _, rfl⟩
    · exact .inl rfl
  | _ => exact .inl rfl

/-- **A step decides one fate at most**, and none when it takes a batch. -/
theorem decided_moves (g : Gateway α) (event : Event α) :
    (decided (g.moves event)).length ≤ 1 ∧
      (decided (g.moves event) ≠ [] → drained (g.moves event) = []) := by
  rcases moves_eq g event with none_ | ⟨m, task, rest, shape⟩
  · rw [none_]
    exact ⟨Nat.zero_le 1, fun some_ ↦ absurd rfl some_⟩
  · rw [shape, decided_cons_takeUp, drained_cons_takeUp]
    cases m with
    | refused payload => exact ⟨Nat.le_refl 1, fun _ ↦ rfl⟩
    | settled task payload => exact ⟨Nat.le_refl 1, fun _ ↦ rfl⟩
    | _ => exact ⟨Nat.zero_le 1, fun some_ ↦ absurd rfl some_⟩

omit [Parcel α] in
theorem mem_fated {effects : List (Effect α)} {effect : Effect α} {payload : α}
    (h : effect ∈ effects) (its : payload ∈ effect.fated) : payload ∈ fated effects :=
  List.mem_flatMap.mpr ⟨effect, h, its⟩

theorem step_ne_two_fates (g : Gateway α) (event : Event α) {effect effect' : Effect α}
    {p p' : α} (its : effect.fated = [p]) (its' : effect'.fated = [p'])
    (first middle last : List (Effect α)) :
    (g.step event).2 ≠ first ++ effect :: (middle ++ effect' :: last) := by
  intro h
  have fates := congrArg List.length (accounts_step (g := g) event).fates
  have one := (decided_moves g event).1
  rw [h] at fates
  simp [fated, its, its'] at fates
  omega

theorem mem_entries_of_queued {payload : α} (h : .queued payload ∈ (g.step event).2) :
    payload ∈ (g.step event).1.queue.entries := by
  have account := accounts_step (g := g) event
  have fate : payload ∈ decided (g.moves event) := by
    rw [← account.fates]
    exact mem_fated h List.mem_cons_self
  have stays := (decided_moves g event).2 (List.ne_nil_of_mem fate)
  have there : payload ∈ accepted (g.step event).2 :=
    List.mem_flatMap.mpr ⟨_, h, List.mem_cons_self⟩
  have queue := account.queue
  rw [stays, List.nil_append] at queue
  rw [← Array.mem_toList_iff, ← queue]
  exact List.mem_append_right _ there

theorem dropped_not_mem_runTask {task : Nat} {requestedAt : Millis} {payload : α}
    {report : Option String} : .dropped payload report ∉ (g.runTask task requestedAt).2 := by
  intro h
  rw [runTask] at h
  split at h
  · next role attempt rest taken there =>
    split at h
    · obtain ⟨-, payment, source, at_, -, same⟩ := mem_callOf h
      cases same
    · rw [failAttempt] at h
      rcases List.mem_append.mp h with disposed | ended
      · rw [dispose] at disposed
        split at disposed
        · cases List.mem_singleton.mp disposed
        · cases List.mem_singleton.mp disposed
      · rcases mem_nextAttempt_snd ended with ⟨result, same⟩ | same <;> cases same
  · rcases mem_nextAttempt_snd h with ⟨result, same⟩ | same <;> cases same
  · cases h

/-- What is dropped has just been handed in, or a call for it was under way. -/
theorem underWay_of_dropped {payload : α} {report : Option String}
    (h : .dropped payload report ∈ (g.step event).2) :
    event = .ingest payload ∨ ∃ call ∈ g.underWay, call.payload = payload := by
  have fate : payload ∈ decided (g.moves event) := by
    rw [← (accounts_step (g := g) event).fates]
    exact mem_fated h List.mem_cons_self
  cases event with
  | ingest p =>
    rw [moves] at fate
    split at fate
    · rw [List.mem_singleton.mp fate]
      exact .inl rfl
    · cases fate
  | run task requestedAt => exact absurd h dropped_not_mem_runTask
  | answer task outcome =>
    rw [moves] at fate
    split at fate
    · next role p payment source requestedAt rest taken there =>
      rw [decided_cons_takeUp] at fate
      rw [List.mem_singleton.mp fate]
      have task_ := Array.mem_toList_iff.mpr (Array.mem_of_getElem? there)
      exact .inr ⟨⟨source, p, payment, requestedAt⟩, List.mem_filterMap.mpr ⟨_, task_, rfl⟩, rfl⟩
    · cases fate
  | _ => cases fate

end Steps

/-! ## Steps of a run, by their effects -/

section Runs

variable [Parcel α] {g : Gateway α} {events : List (Event α)}

theorem exists_step_of_run_eq {before after : List (Effect α)} {effect : Effect α}
    (h : (g.run events).2 = before ++ effect :: after) :
    ∃ earlier event later first last, events = earlier ++ event :: later ∧
      before = (g.run earlier).2 ++ first ∧
      ((g.run earlier).1.step event).2 = first ++ effect :: last ∧
      after = last ++ (((g.run earlier).1.step event).1.run later).2 := by
  induction events generalizing g before with
  | nil => exact absurd (congrArg List.length h) (by simp [run])
  | cons event events ih =>
    rw [run_cons] at h
    rcases List.append_eq_append_iff.mp h with ⟨more, front, back⟩ | ⟨more, front, back⟩
    · -- the effect is of a later step
      obtain ⟨earlier, event', later, first, last, rfl, rfl, there, rfl⟩ := ih back
      refine ⟨event :: earlier, event', later, first, last, rfl, ?_, there, rfl⟩
      rw [front, run_cons, List.append_assoc]
    · rcases List.append_eq_cons_iff.mp back.symm with ⟨rfl, rest⟩ | ⟨last, rfl, rest⟩
      · -- it is the first of them
        have front_ := rest.trans (List.nil_append _).symm
        obtain ⟨earlier, event', later, first, last, rfl, same, there, rfl⟩ := ih front_
        refine ⟨event :: earlier, event', later, first, last, rfl, ?_, there, rfl⟩
        rw [run_cons, List.append_assoc, ← same, front]
        simp
      · exact ⟨[], event, events, before, last, rfl, rfl, front, rest⟩

/-- Two effects of a run that cannot be of one step are of two, and what was done in the steps
between those comes between the effects. -/
theorem exists_two_steps_of_run_eq {before between after : List (Effect α)}
    {effect effect' : Effect α}
    (h : (g.run events).2 = before ++ effect :: (between ++ effect' :: after))
    (apart : ∀ (g : Gateway α) (event : Event α) (first middle last : List (Effect α)),
      (g.step event).2 ≠ first ++ effect :: (middle ++ effect' :: last)) :
    ∃ earlier event meanwhile event' later,
      events = earlier ++ event :: (meanwhile ++ event' :: later) ∧
      effect ∈ ((g.run earlier).1.step event).2 ∧
      (((g.run earlier).1.step event).1.run meanwhile).2 ⊆ between ∧
      effect' ∈ ((((g.run earlier).1.step event).1.run meanwhile).1.step event').2 := by
  obtain ⟨earlier, event, later, first, last, rfl, -, there, tail⟩ := exists_step_of_run_eq h
  obtain ⟨more, rfl, there'⟩ : ∃ more, between = last ++ more ∧
      (((g.run earlier).1.step event).1.run later).2 = more ++ effect' :: after := by
    rcases List.append_eq_append_iff.mp tail with ⟨more, rfl, back⟩ | ⟨more, front, back⟩
    · rcases List.append_eq_cons_iff.mp back.symm with ⟨rfl, rest⟩ | ⟨more', rfl, rest⟩
      · exact ⟨[], by simp, rest⟩
      · exact absurd there (apart _ _ first between more')
    · exact ⟨more, front, back⟩
  obtain ⟨meanwhile, event', later, first', last', rfl, rfl, there', -⟩ :=
    exists_step_of_run_eq there'
  refine ⟨earlier, event, meanwhile, event', later, rfl, ?_, ?_, ?_⟩
  · rw [there]
    exact List.mem_append_right _ List.mem_cons_self
  · exact fun e mem ↦ List.mem_append_right _ (List.mem_append_left _ mem)
  · rw [there']
    exact List.mem_append_right _ List.mem_cons_self

end Runs

/-! ## A payload and the calls for it -/

section Weights

variable {w : α → Nat}

theorem weigh_mono {w' : α → Nat} (h : ∀ p, w p ≤ w' p) (payloads : List α) :
    weigh w payloads ≤ weigh w' payloads := List.sum_le_sum fun p _ ↦ h p

theorem le_weigh {payload : α} {payloads : List α} (h : payload ∈ payloads) :
    w payload ≤ weigh w payloads :=
  List.single_le_sum (fun _ _ ↦ Nat.zero_le _) _ (List.mem_map_of_mem h)

theorem exists_of_weigh_pos {payloads : List α} (h : 0 < weigh w payloads) :
    ∃ payload ∈ payloads, 0 < w payload := by
  by_contra none_
  refine Nat.ne_of_gt h (List.sum_eq_zero fun n mem ↦ ?_)
  obtain ⟨payload, there, rfl⟩ := List.mem_map.mp mem
  exact Nat.eq_zero_of_not_pos fun some_ ↦ none_ ⟨payload, there, some_⟩

theorem pending_le_held (w : α → Nat) (g : Gateway α) :
    pending (fun call ↦ w call.payload) g ≤ held w g := by
  rw [pending_eq_tally]
  refine List.sum_le_sum fun t _ ↦ ?_
  obtain ⟨role, _ | ⟨⟨payload, stage⟩, rest, taken⟩ | _ | _⟩ := t
  · exact Nat.zero_le _
  · cases stage with
    | calling payment source requestedAt => exact Nat.add_le_add_left (Nat.zero_le _) (w payload)
    | _ => exact Nat.zero_le _
  · exact Nat.zero_le _
  · exact Nat.zero_le _

variable [Parcel α] [DecidableEq α]

/-- The payload is all that weighs anything. -/
def only (payload : α) : α → Nat := fun p ↦ if p = payload then 1 else 0

omit [Parcel α] in
theorem only_pos_iff {payload p : α} : 0 < only payload p ↔ p = payload := by
  rw [only]
  split <;> simp_all

theorem exists_called_of_pending {g : Gateway α} {events : List (Event α)} {payload : α}
    (before : pending (fun call ↦ only payload call.payload) g = 0)
    (after : ∃ call ∈ (g.run events).1.underWay, call.payload = payload) :
    ∃ task source payment requestedAt,
      .called task source payload payment requestedAt ∈ (g.run events).2 := by
  obtain ⟨call, there, same⟩ := after
  have weights := pending_run (w := fun call ↦ only payload call.payload) g events
  have late : 0 < pending (fun call ↦ only payload call.payload) (g.run events).1 :=
    Nat.lt_of_lt_of_le (only_pos_iff.mpr same)
      (le_weigh (w := fun call ↦ only payload call.payload) there)
  have some_ : 0 < weigh (fun call ↦ only payload call.payload) (begun (g.run events).2) := by
    omega
  obtain ⟨begun_, mem, its⟩ := exists_of_weigh_pos some_
  obtain ⟨effect, there, called⟩ := List.mem_filterMap.mp mem
  cases effect with
  | called task source p payment requestedAt =>
    cases called
    rw [only_pos_iff] at its
    exact ⟨task, source, payment, requestedAt, its ▸ there⟩
  | _ => cases called

/-- What is in the queue was handed in; if it was so once, no call for it is under way. -/
theorem of_mem_entries {terms : Terms} {events : List (Event α)} {payload : α}
    (h : payload ∈ ((new terms).run events).1.queue.entries) :
    0 < weigh (only payload) (events.filterMap Event.payload?) ∧
      (weigh (only payload) (events.filterMap Event.payload?) ≤ 1 →
        pending (fun call ↦ only payload call.payload) ((new terms).run events).1 = 0) := by
  have total := load_run (w := only payload) (new terms) events
  have nothing : load (only payload) (new terms : Gateway α) = 0 := rfl
  have there : only payload payload ≤ waiting (only payload) ((new terms).run events).1 :=
    le_weigh (Array.mem_toList_iff.mpr h)
  have one : 0 < only payload payload := only_pos_iff.mpr rfl
  have least := pending_le_held (only payload) ((new terms).run events).1
  rw [load] at total
  constructor
  · omega
  · intro once
    omega

/-- **Between being queued and being dropped** a payload that was handed in once is sent to a
processor. -/
theorem exists_called_between {terms : Terms} {events : List (Event α)} {payload : α}
    {report : Option String} {before between after : List (Effect α)}
    (once : weigh (only payload) (events.filterMap Event.payload?) ≤ 1)
    (h : ((new terms).run events).2
      = before ++ .queued payload :: (between ++ .dropped payload report :: after)) :
    ∃ task source payment requestedAt,
      .called task source payload payment requestedAt ∈ between := by
  obtain ⟨earlier, event, meanwhile, event', later, rfl, queued, calls, dropped⟩ :=
    exists_two_steps_of_run_eq h fun g event ↦ step_ne_two_fates g event rfl rfl
  have here : ((new terms).run (earlier ++ [event])).1
      = (((new terms).run earlier).1.step event).1 := by
    rw [run_append]
    rfl
  have waits : payload ∈ ((new terms).run (earlier ++ [event])).1.queue.entries :=
    here ▸ mem_entries_of_queued queued
  have parts : earlier ++ event :: (meanwhile ++ event' :: later)
      = (earlier ++ [event]) ++ (meanwhile ++ event' :: later) := by simp
  obtain ⟨handed, idle⟩ := of_mem_entries waits
  rw [parts, List.filterMap_append, weigh_append] at once
  rcases underWay_of_dropped dropped with rfl | calling
  · -- it was handed in before, and cannot be again
    have again : only payload payload
        ≤ weigh (only payload) ((meanwhile ++ .ingest payload :: later).filterMap Event.payload?) :=
      le_weigh (List.mem_filterMap.mpr ⟨.ingest payload, by simp, rfl⟩)
    have one : 0 < only payload payload := only_pos_iff.mpr rfl
    omega
  · obtain ⟨task, source, payment, requestedAt, there⟩ :=
      exists_called_of_pending (here ▸ idle (by omega)) calling
    exact ⟨task, source, payment, requestedAt, calls there⟩

end Weights

/-! ## The retry queue -/

theorem weigh_only_numberFrom {p : Numbered} (h : p.isGuest = false)
    (events : List (Event String)) :
    weigh (only p) ((numberFrom 0 events).filterMap Event.payload?) ≤ 1 := by
  obtain ⟨n, number⟩ : ∃ n, p.number = some n := by
    rw [Numbered.isGuest, Option.isNone_eq_false_iff] at h
    exact Option.isSome_iff_exists.mp h
  have lighter (q : Numbered) : only p q ≤ if q.number = some n then 1 else 0 := by
    rw [only]
    split
    · next same => rw [same, if_pos number]
    · exact Nat.zero_le _
  refine (weigh_mono lighter _).trans ?_
  rw [weigh_number, numbers_numberFrom]
  exact List.nodup_iff_count_le_one.mp List.nodup_range' n

theorem isGuest_of_queued {terms : Terms} {events : List (Event String)} {p : Numbered}
    (h : .queued p ∈ ((new terms).run (numberFrom 0 events)).2) : p.isGuest = false := by
  have proper := numberFrom_apart 0 events
  obtain ⟨before, event, after, split_, there⟩ := exists_step_of_mem_run h
  rw [split_] at proper
  have apart : Apart Numbered.isGuest ((new terms).run before).1 :=
    apart_run fun e mem ↦ proper e (List.mem_append_left _ mem)
  have waits := mem_entries_of_queued there
  exact (apart_step (proper event (List.mem_append_right _ List.mem_cons_self)) apart).queue p waits

/-- **What is queued is attempted before it can be dropped.** In every run, with the payloads that
are handed in numbered (which makes no difference):

* what the retry queue has accepted was taken out in batches or still waits, all in the order in
  which it was accepted;
* what a task has taken it has begun to attempt or has left, and what it has begun is settled or
  being attempted, all in the order in which it was taken;
* the payloads that were recorded, discarded, given back, queued or dropped are those whose attempts
  are over and those for which there was no slot, each once and in the same order;
* between being queued and being dropped for want of room a payload is sent to a processor. -/
theorem queued_payloads_attempted (terms : Terms) (events : List (Event String)) :
    let run := (new terms).run events
    let numbered := (new terms).run (numberFrom 0 events)
    let moves := (new terms).history (numberFrom 0 events)
    run = mapResult Numbered.text numbered ∧
      accepted numbered.2 = drained moves ++ numbered.1.queue.entries.toList ∧
      (∀ task : Nat,
        takenBy task moves = begunBy task moves ++ restOf numbered.1.tasks[task]? ∧
        begunBy task moves = settledBy task moves ++ currentOf numbered.1.tasks[task]?) ∧
      fated numbered.2 = decided moves ∧
      ∀ payload report before between after,
        numbered.2 = before ++ .queued payload :: (between ++ .dropped payload report :: after) →
          ∃ task source payment requestedAt,
            .called task source payload payment requestedAt ∈ between := by
  have account := accounts_run (g := new terms) (numberFrom 0 events)
  refine ⟨?_, account.queue, fun task ↦ ?_, account.fates, ?_⟩
  · have taken := run_map (f := Numbered.text) (fun _ ↦ rfl) (new terms) (numberFrom 0 events)
    rw [numberFrom_text, map_new] at taken
    exact taken
  · exact ⟨account.handled.taken task, account.handled.begun task⟩
  · intro payload report before between after done
    have queued : .queued payload ∈ ((new terms).run (numberFrom 0 events)).2 :=
      done ▸ List.mem_append_right _ List.mem_cons_self
    exact exists_called_between (weigh_only_numberFrom (isGuest_of_queued queued) events) done

/-- A queue of one place, and two payloads that are handed in while the first is attempted again:
the second has its slot, the third its place. -/
theorem dropped_after_second_attempt :
    let payload (id : String) : String := "\x7b\"correlationId\":\"" ++ id ++ "\",\"amount\":1\x7d"
    let refused : ProcessorOutcome := .refused (.status 500)
    let terms : Terms := ⟨false, 1, 1, 5040⟩
    let events : List (Event String) := [.ingest (payload "a"), .run 0 5, .run 0 5,
      .answer 0 refused, .startWorker, .run 1 6, .ingest (payload "b"), .ingest (payload "c"),
      .run 1 7, .run 1 7, .answer 1 refused]
    let first : Numbered := ⟨some 0, payload "a"⟩
    let payment : Payment := ⟨"a", ⟨false, 1, 0, by decide, by decide⟩⟩
    let between : List (Effect Numbered) := [.finished 0 (.failed (.dispatch .main (.status 500))),
      .queued ⟨some 2, payload "c"⟩, .called 1 .main first payment 7]
    ((new terms).run (numberFrom 0 events)).2 = [.called 0 .main first payment 5] ++
        .queued first :: (between ++ .dropped first (some (RetryQueue.report
          (⟨1, #[first], 1⟩ : RetryQueue Numbered))) :: [.rested 1]) ∧
      ∃ task source payment requestedAt,
        .called task source first payment requestedAt ∈ between := by
  intro payload refused terms events first payment between
  have done : ((new terms).run (numberFrom 0 events)).2 = [.called 0 .main first payment 5] ++
      .queued first :: (between ++ .dropped first (some (RetryQueue.report
        (⟨1, #[first], 1⟩ : RetryQueue Numbered))) :: [.rested 1]) := by
    decide +kernel
  obtain ⟨-, -, -, -, retried⟩ := queued_payloads_attempted terms events
  exact ⟨done, retried first _ _ between _ done⟩

end PaymentRelay.Gateway
