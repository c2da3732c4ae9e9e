import Mathlib.Data.List.Perm.Subperm
import PaymentRelay.Proofs.Gateway.Books
import PaymentRelay.Proofs.Ledger.Records

/-!
# Calls under way

Between the step that calls a processor and the step in which the call is answered, the call is
under way. Every payment that is recorded comes of a call that was, and with its record the call is
over; a call that is refused is over without one. So the calls under way and the payments recorded
never come to more than what was under way before and what has been called since.

As in the conservation of payloads, each call is given a weight, and the statement is about weights
until the end.
-/

namespace PaymentRelay

variable {α : Type}

/-- A call of a processor: where it goes, and what for. -/
structure Gateway.Call (α : Type) where
  source : Source
  payload : α
  payment : Payment
  requestedAt : Millis
deriving DecidableEq, Repr

/-- What is written into the ledger when a call has succeeded. -/
def Gateway.Call.record (call : Gateway.Call α) : Record :=
  ⟨call.source, call.requestedAt, call.payment.amount⟩

/-- The call whose answer an attempt waits for. -/
def Attempt.call? (attempt : Attempt α) : Option (Gateway.Call α) :=
  match attempt.stage with
  | .calling payment source requestedAt => some ⟨source, attempt.payload, payment, requestedAt⟩
  | _ => none

def Task.call? (t : Task α) : Option (Gateway.Call α) := t.attempt?.bind Attempt.call?

namespace Gateway

@[simp] theorem call?_next (role : Role) (rest : List α) (taken : Nat) :
    Task.call? ⟨role, role.next rest taken⟩ = none := by
  rw [Task.call?, Role.attempt?_next]
  cases rest <;> rfl

@[simp] theorem call?_wake (t : Task α) : t.wake.call? = t.call? := by
  obtain ⟨role, _ | ⟨⟨payload, stage⟩, rest, taken⟩ | _ | _⟩ := t
  · rfl
  · cases stage <;> rfl
  · rfl
  · rfl

/-- The attempt that a task is making. -/
def attemptOf (g : Gateway α) (task : Nat) : Option (Attempt α) := g.tasks[task]?.bind Task.attempt?

theorem attemptOf_of_trying {g : Gateway α} {task : Nat} {role : Role} {attempt : Attempt α}
    {rest : List α} {taken : Nat}
    (there : g.tasks[task]? = some ⟨role, .trying attempt rest taken⟩) :
    g.attemptOf task = some attempt := by
  rw [attemptOf, there]
  rfl

theorem exists_of_attemptOf {g : Gateway α} {task : Nat} {attempt : Attempt α}
    (h : g.attemptOf task = some attempt) :
    ∃ role rest taken, g.tasks[task]? = some ⟨role, .trying attempt rest taken⟩ := by
  obtain ⟨⟨role, activity⟩, there, trying⟩ := Option.bind_eq_some_iff.mp h
  cases activity with
  | trying attempt rest taken =>
    cases trying
    exact ⟨role, rest, taken, there⟩
  | _ => cases trying

/-- The call whose answer a task waits for, by the number of the task. -/
def waitsFor (g : Gateway α) (task : Nat) : Option (Call α) := g.tasks[task]?.bind Task.call?

theorem waitsFor_eq (g : Gateway α) (task : Nat) :
    g.waitsFor task = (g.attemptOf task).bind Attempt.call? := by
  rw [waitsFor, attemptOf, Option.bind_assoc]
  rfl

/-- The calls under way. -/
def underWay (g : Gateway α) : List (Call α) := g.tasks.toList.filterMap Task.call?

def Effect.begun? : Effect α → Option (Call α)
  | .called _ source payload payment requestedAt => some ⟨source, payload, payment, requestedAt⟩
  | _ => none

def Effect.booked? : Effect α → Option (Call α)
  | .recorded _ source payload payment requestedAt => some ⟨source, payload, payment, requestedAt⟩
  | _ => none

/-- The calls that began, in order. -/
def begun (effects : List (Effect α)) : List (Call α) := effects.filterMap Effect.begun?

/-- The calls whose payments were recorded, in order. -/
def booked (effects : List (Effect α)) : List (Call α) := effects.filterMap Effect.booked?

@[simp] theorem begun_append (effects more : List (Effect α)) :
    begun (effects ++ more) = begun effects ++ begun more := List.filterMap_append

@[simp] theorem booked_append (effects more : List (Effect α)) :
    booked (effects ++ more) = booked effects ++ booked more := List.filterMap_append

/-- What neither begins a call nor records a payment. -/
def Effect.Idle (effect : Effect α) : Prop := effect.begun? = none ∧ effect.booked? = none

theorem booked_eq_nil_of_idle {effects : List (Effect α)} (h : ∀ effect ∈ effects, effect.Idle) :
    booked effects = [] := List.filterMap_eq_nil_iff.mpr fun effect mem ↦ (h effect mem).2

theorem begun_eq_nil_iff {effects : List (Effect α)} :
    begun effects = [] ↔ ∀ task source payload payment requestedAt,
      .called task source payload payment requestedAt ∉ effects := by
  rw [begun, List.filterMap_eq_nil_iff]
  constructor
  · intro none task source payload payment requestedAt mem
    simpa [Effect.begun?] using none _ mem
  · intro none effect mem
    cases effect with
    | called task source payload payment requestedAt => exact absurd mem (none _ _ _ _ _)
    | _ => rfl

theorem exists_called {effects : List (Effect α)} (h : begun effects ≠ []) :
    ∃ task source payload payment requestedAt,
      .called task source payload payment requestedAt ∈ effects := by
  by_contra none
  exact h (begun_eq_nil_iff.mpr fun task source payload payment requestedAt mem ↦
    none ⟨task, source, payload, payment, requestedAt, mem⟩)

/-! ### What becomes of a payload whose attempt is over -/

theorem idle_nextAttempt {g : Gateway α} {task : Nat} {role : Role} {rest : List α} {taken : Nat}
    {result : TaskResult} :
    ∀ effect ∈ (g.nextAttempt task role rest taken result).2, effect.Idle := by
  intro effect mem
  rcases mem_nextAttempt_snd mem with ⟨result, rfl⟩ | rfl <;> exact ⟨rfl, rfl⟩

theorem idle_enqueue {g : Gateway α} {payload : α} :
    ∀ effect ∈ (g.enqueue payload).2, effect.Idle := by
  intro effect mem
  rcases mem_enqueue_snd mem with rfl | ⟨report, rfl⟩ <;> exact ⟨rfl, rfl⟩

theorem idle_dispose {g : Gateway α} {role : Role} {payload : α} {fault : PaymentFault} :
    ∀ effect ∈ (g.dispose role payload fault).2, effect.Idle := by
  intro effect mem
  rw [dispose] at mem
  by_cases owned : role = .single
  · rw [if_pos owned] at mem
    rw [List.mem_singleton.mp mem]
    exact ⟨rfl, rfl⟩
  rw [if_neg owned] at mem
  by_cases retryable : fault.isRetryable
  · rw [if_pos retryable] at mem
    exact idle_enqueue effect mem
  · rw [if_neg retryable] at mem
    rw [List.mem_singleton.mp mem]
    exact ⟨rfl, rfl⟩

theorem idle_failAttempt {g : Gateway α} {task : Nat} {role : Role} {attempt : Attempt α}
    {rest : List α} {taken : Nat} {fault : PaymentFault} :
    ∀ effect ∈ (g.failAttempt task role attempt rest taken fault).2, effect.Idle := by
  intro effect mem
  rw [failAttempt] at mem
  exact (List.mem_append.mp mem).elim (idle_dispose effect) (idle_nextAttempt effect)

/-! ## The ledger has what was recorded -/

/-- What effects write into the ledger is the records of the calls that they settle. -/
theorem records_book_perm (ledger : Ledger) (effects : List (Effect α)) :
    (book ledger effects).records.Perm ((booked effects).map Call.record ++ ledger.records) := by
  induction effects generalizing ledger with
  | nil => exact List.Perm.refl _
  | cons effect effects ih =>
    rw [book, List.foldl_cons]
    cases effect with
    | recorded task source payload payment requestedAt =>
      have saved := ledger.records_save_perm source requestedAt payment.amount
      exact ((ih _).trans (saved.append_left _)).trans List.perm_middle
    | _ => exact ih ledger

section Steps

variable [Parcel α]

/-- **A step adds the records of the calls that it settles** and no others, unless it empties the
ledger. -/
theorem records_step_perm {g : Gateway α} {event : Event α} (kept : event ≠ .purge) :
    (g.step event).1.ledger.records.Perm
      ((booked (g.step event).2).map Call.record ++ g.ledger.records) := by
  rw [ledger_step kept]
  exact records_book_perm g.ledger _

/-- Whether or not the ledger has been emptied, it has no other records than it had and those of the
calls that were settled. -/
theorem records_run_subperm (g : Gateway α) (events : List (Event α)) :
    (g.run events).1.ledger.records.Subperm
      ((booked (g.run events).2).map Call.record ++ g.ledger.records) := by
  induction events generalizing g with
  | nil => exact List.Subperm.refl _
  | cons event events ih =>
    have one : (g.step event).1.ledger.records.Subperm
        ((booked (g.step event).2).map Call.record ++ g.ledger.records) := by
      by_cases purged : event = .purge
      · subst purged
        exact List.nil_subperm
      · exact (records_step_perm purged).subperm
    have rest := (ih (g.step event).1).trans ((List.subperm_append_left _).mpr one)
    rw [run_cons]
    refine rest.trans (List.Perm.subperm ?_)
    simp only [booked_append, List.map_append, ← List.append_assoc]
    exact List.perm_append_comm.append_right _

end Steps

/-! ## No call comes from nowhere -/

section Weights

variable {w : Call α → Nat} {g : Gateway α}

/-- The weight of the calls under way. -/
def pending (w : Call α → Nat) (g : Gateway α) : Nat := weigh w g.underWay

/-- The weight of the call that a task waits for. -/
def pendingOf (w : Call α → Nat) (t : Task α) : Nat := weigh w t.call?.toList

theorem pending_eq_tally (w : Call α → Nat) (g : Gateway α) :
    pending w g = g.tally (pendingOf w) := by
  rw [pending, underWay, tally]
  induction g.tasks.toList with
  | nil => rfl
  | cons t ts ih =>
    rw [List.map_cons, List.sum_cons, ← ih, pendingOf]
    cases h : t.call? with
    | none => simp [List.filterMap_cons_none h]
    | some call => simp [List.filterMap_cons_some h]

@[simp] theorem pendingOf_next (w : Call α → Nat) (role : Role) (rest : List α) (taken : Nat) :
    pendingOf w ⟨role, role.next rest taken⟩ = 0 := by
  rw [pendingOf, call?_next]
  rfl

@[simp] theorem pendingOf_wake (w : Call α → Nat) (t : Task α) :
    pendingOf w t.wake = pendingOf w t := by
  rw [pendingOf, call?_wake, pendingOf]

theorem pending_of_setIfInBounds (g' : Gateway α) {task : Nat} {t t' : Task α}
    (there : g.tasks[task]? = some t) (h : g'.tasks = g.tasks.setIfInBounds task t') :
    pending w g' + pendingOf w t = pending w g + pendingOf w t' := by
  rw [pending_eq_tally, pending_eq_tally]
  exact tally_of_setIfInBounds g' _ there h

theorem pending_failAttempt {task : Nat} {role : Role} {attempt : Attempt α} {rest : List α}
    {taken : Nat} (there : g.tasks[task]? = some ⟨role, .trying attempt rest taken⟩)
    (fault : PaymentFault) :
    pending w (g.failAttempt task role attempt rest taken fault).1
        + weigh w (booked (g.failAttempt task role attempt rest taken fault).2) ≤ pending w g := by
  have moved := pending_of_setIfInBounds (w := w) _ there
    (congrArg Gateway.tasks (g.failAttempt_fst task role attempt rest taken fault))
  have none : booked (g.failAttempt task role attempt rest taken fault).2 = [] :=
    booked_eq_nil_of_idle idle_failAttempt
  rw [pendingOf_next] at moved
  rw [none, weigh_nil]
  omega

theorem pending_recordAttempt {task : Nat} {role : Role} {payload : α} {payment : Payment}
    {source : Source} {requestedAt : Millis} {rest : List α} {taken : Nat}
    (there : g.tasks[task]? = some
      ⟨role, .trying ⟨payload, .calling payment source requestedAt⟩ rest taken⟩) :
    pending w (g.recordAttempt task role payload payment source requestedAt rest taken).1
        + weigh w (booked
          (g.recordAttempt task role payload payment source requestedAt rest taken).2)
      = pending w g := by
  have moved := pending_of_setIfInBounds (w := w) _ there (congrArg Gateway.tasks
    (g.recordAttempt_fst task role payload payment source requestedAt rest taken))
  have one : booked (g.recordAttempt task role payload payment source requestedAt rest taken).2
      = [⟨source, payload, payment, requestedAt⟩] := by
    rw [recordAttempt]
    exact congrArg _ (booked_eq_nil_of_idle idle_nextAttempt)
  rw [pendingOf_next] at moved
  rw [one]
  exact moved

theorem pendingOf_look [Parcel α] {role : Role} {attempt : Attempt α} {rest : List α} {taken : Nat}
    {requestedAt : Millis} {stage : Stage} (looked : g.look attempt requestedAt = .ok stage)
    (task : Nat) :
    pendingOf w ⟨role, .trying { attempt with stage } rest taken⟩
      = pendingOf w ⟨role, .trying attempt rest taken⟩
        + weigh w (begun (callOf task attempt.payload attempt.stage stage)) := by
  obtain ⟨payload, before⟩ := attempt
  cases before with
  | calling payment source at_ =>
    cases looked
    rfl
  | _ =>
    cases stage with
    | calling payment source at_ => exact (Nat.zero_add _).symm
    | _ => rfl

theorem pending_runTask [Parcel α] (task : Nat) (requestedAt : Millis) :
    pending w (g.runTask task requestedAt).1 + weigh w (booked (g.runTask task requestedAt).2)
      ≤ pending w g + weigh w (begun (g.runTask task requestedAt).2) := by
  rw [runTask]
  split
  · next role attempt rest taken there =>
    split
    · next stage looked =>
      have moved := pending_of_setIfInBounds (w := w)
        (g.setTask task ⟨role, .trying { attempt with stage } rest taken⟩) there rfl
      have none : booked (callOf task attempt.payload attempt.stage stage) = [] := by
        refine List.filterMap_eq_nil_iff.mpr fun effect mem ↦ ?_
        obtain ⟨-, payment, source, at_, -, rfl⟩ := mem_callOf mem
        rfl
      rw [pendingOf_look looked task] at moved
      dsimp only
      rw [none, weigh_nil]
      omega
    · next fault looked => exact Nat.le_add_right_of_le (pending_failAttempt there _)
  · next role there =>
    have moved := pending_of_setIfInBounds (w := w) _ there
      (congrArg Gateway.tasks (g.takeBatch_fst task role))
    have none : booked (g.takeBatch task role).2 = [] := booked_eq_nil_of_idle idle_nextAttempt
    rw [pendingOf_next] at moved
    rw [none, weigh_nil]
    omega
  · exact Nat.le_refl _

theorem pending_answerTask (task : Nat) (outcome : ProcessorOutcome) :
    pending w (g.answerTask task outcome).1 + weigh w (booked (g.answerTask task outcome).2)
      ≤ pending w g := by
  rw [answerTask]
  split
  · next role payload payment source requestedAt rest taken there =>
    split
    · exact Nat.le_of_eq (pending_recordAttempt there)
    · exact pending_failAttempt there _
  · exact Nat.le_refl _

theorem pending_addTask {t : Task α} (idle : pendingOf w t = 0) :
    pending w (g.addTask t) = pending w g := by
  rw [pending_eq_tally, pending_eq_tally, tally_of_push (g.addTask t) _ rfl, idle, Nat.add_zero]

theorem pending_setMonitor (source : Source) (monitor : Monitor) :
    pending w (g.setMonitor source monitor) = pending w g := by
  rw [pending_eq_tally, pending_eq_tally, tally_setMonitor g _ (pendingOf_wake w)]

/-- **Calls are conserved, one step.** The calls under way after a step and those that it has
recorded come to no more than the calls under way before it and those that it has begun. -/
theorem pending_step [Parcel α] (event : Event α) :
    pending w (g.step event).1 + weigh w (booked (g.step event).2)
      ≤ pending w g + weigh w (begun (g.step event).2) := by
  cases event with
  | ingest payload =>
    rw [step, ingest]
    split
    · rw [booked_eq_nil_of_idle idle_enqueue]
      exact Nat.le_add_right _ _
    · exact Nat.le_of_eq (pending_addTask (g := { g with freeSlots := g.freeSlots - 1 }) rfl)
  | run task requestedAt => exact pending_runTask task requestedAt
  | answer task outcome => exact Nat.le_add_right_of_le (pending_answerTask task outcome)
  | wakeWorker task =>
    rw [step]
    split
    · next role there =>
      exact Nat.le_of_eq (pending_of_setIfInBounds (g.setTask task ⟨role, .due⟩) there rfl)
    · exact Nat.le_refl _
  | markDown source now => exact Nat.le_of_eq (pending_setMonitor source _)
  | markUp source => exact Nat.le_of_eq (pending_setMonitor source _)
  | expire source deadline => exact Nat.le_of_eq (pending_setMonitor source _)
  | purge => exact Nat.le_refl _
  | _ => exact Nat.le_of_eq (pending_addTask rfl)

/-- **Calls are conserved, a whole run.** -/
theorem pending_run [Parcel α] (g : Gateway α) (events : List (Event α)) :
    pending w (g.run events).1 + weigh w (booked (g.run events).2)
      ≤ pending w g + weigh w (begun (g.run events).2) := by
  induction events generalizing g with
  | nil => exact Nat.le_refl _
  | cons event events ih =>
    have one := pending_step (w := w) (g := g) event
    have rest := ih (g.step event).1
    rw [run_cons]
    simp only [booked_append, begun_append, weigh_append]
    omega

end Weights

/-- With one call as all that weighs anything, weighing is counting. -/
theorem weigh_indicator [DecidableEq α] (call : Call α) (calls : List (Call α)) :
    weigh (fun c ↦ if c = call then 1 else 0) calls = calls.count call := by
  induction calls with
  | nil => rfl
  | cons c calls ih =>
    rw [weigh_cons, ih, List.count_cons]
    by_cases same : c = call <;> simp [same, Nat.add_comm]

/-- **Where no call begins**, only calls that were under way are recorded, each no more than
once. -/
theorem booked_subperm_underWay [Parcel α] [DecidableEq α] {g : Gateway α}
    {events : List (Event α)} (none : begun (g.run events).2 = []) :
    (booked (g.run events).2).Subperm g.underWay := by
  rw [List.subperm_ext_iff]
  intro call _
  have weights := pending_run (w := fun c ↦ if c = call then 1 else 0) g events
  rw [none, weigh_nil, weigh_indicator, pending, pending, weigh_indicator,
    weigh_indicator] at weights
  omega

end Gateway

end PaymentRelay
