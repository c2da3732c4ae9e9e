import PaymentRelay.Proofs.Gateway.Calls

/-!
# What an attempt comes to, and the ledger

An attempt is over in the step that finds that its payload says no payment, or in the step in which
its call is answered. `verdict?` says what it comes to there: a fault, or the call that has
succeeded. The ledger gains one record when the verdict is a call, that of the call, and in no other
step does it gain anything.
-/

namespace PaymentRelay.Gateway

variable {α : Type}

/-! ## Verdicts -/

/-- What an attempt comes to in a step, if one is over in that step: the call that has succeeded, or
why the payment has failed. -/
def verdict? [Parcel α] (g : Gateway α) : Event α → Option (Except PaymentFault (Call α))
  | .run task requestedAt =>
    (g.attemptOf task).bind fun attempt ↦
      match g.look attempt requestedAt with
      | .error fault => some (.error (.invalidPayload fault))
      | .ok _ => none
  | .answer task outcome =>
    (g.waitsFor task).map fun call ↦
      match outcome with
      | .taken => .ok call
      | .refused fault => .error (.dispatch call.source fault)
  | _ => none

/-- The attempt that waits for a call. -/
def Call.attempt (call : Call α) : Attempt α :=
  ⟨call.payload, .calling call.payment call.source call.requestedAt⟩

theorem exists_of_waitsFor {g : Gateway α} {task : Nat} {call : Call α}
    (h : g.waitsFor task = some call) :
    ∃ role rest taken, g.tasks[task]? = some ⟨role, .trying call.attempt rest taken⟩ := by
  rw [waitsFor_eq] at h
  obtain ⟨⟨payload, stage⟩, trying, waits⟩ := Option.bind_eq_some_iff.mp h
  cases stage with
  | calling payment source requestedAt =>
    cases waits
    exact exists_of_attemptOf trying
  | _ => cases waits

theorem answerTask_of_trying {g : Gateway α} {task : Nat} {role : Role} {call : Call α}
    {rest : List α} {taken : Nat}
    (there : g.tasks[task]? = some ⟨role, .trying call.attempt rest taken⟩)
    (outcome : ProcessorOutcome) : g.answerTask task outcome = match outcome with
      | .taken => g.recordAttempt task role call.payload call.payment call.source call.requestedAt
          rest taken
      | .refused fault =>
        g.failAttempt task role call.attempt rest taken (.dispatch call.source fault) := by
  rw [answerTask, there]
  rfl

theorem answerTask_of_idle {g : Gateway α} {task : Nat} (idle : g.waitsFor task = none)
    (outcome : ProcessorOutcome) : g.answerTask task outcome = (g, []) := by
  rw [answerTask]
  split
  · next there =>
    rw [waitsFor, there] at idle
    cases idle
  · rfl

section Ledger

variable [Parcel α] {g : Gateway α} {event : Event α}

/-- Nothing but an answer writes into the ledger. -/
theorem ledger_eq_of_unanswered (kept : event ≠ .purge)
    (unanswered : ∀ task, event ≠ .answer task .taken) : (g.step event).1.ledger = g.ledger := by
  rw [ledger_step kept]
  refine book_eq_self fun task source payload payment requestedAt mem ↦ ?_
  cases arises_of_mem_step mem with
  | recorded there answered => exact unanswered task answered
  | enqueued offered done =>
    rcases mem_enqueue_snd done with other | ⟨report, other⟩ <;> cases other

/-- An attempt succeeds when its call is answered, and not otherwise. -/
theorem answered_of_ok {call : Call α} (h : g.verdict? event = some (.ok call)) :
    ∃ task, event = .answer task .taken ∧ g.waitsFor task = some call := by
  cases event with
  | run task requestedAt =>
    obtain ⟨attempt, -, verdict⟩ := Option.bind_eq_some_iff.mp h
    split at verdict <;> cases verdict
  | answer task outcome =>
    obtain ⟨call', waits, verdict⟩ := Option.map_eq_some_iff.mp h
    cases outcome with
    | refused fault => cases verdict
    | taken =>
      cases verdict
      exact ⟨task, rfl, waits⟩
  | _ => cases h

/-- **An attempt that succeeds** adds the record of its call. -/
theorem ledger_of_ok {call : Call α} (h : g.verdict? event = some (.ok call)) :
    (g.step event).1.ledger
      = g.ledger.save call.source call.requestedAt call.payment.amount := by
  obtain ⟨task, rfl, waits⟩ := answered_of_ok h
  obtain ⟨role, rest, taken, there⟩ := exists_of_waitsFor waits
  rw [step, answerTask_of_trying there]
  dsimp only
  rw [recordAttempt_fst]

/-- **An attempt that fails** leaves the ledger as it was. -/
theorem ledger_of_error {fault : PaymentFault} (h : g.verdict? event = some (.error fault)) :
    (g.step event).1.ledger = g.ledger := by
  refine ledger_eq_of_unanswered ?_ ?_
  · rintro rfl
    cases h
  · rintro task rfl
    obtain ⟨call, -, verdict⟩ := Option.map_eq_some_iff.mp h
    cases verdict

/-- **A step in which no attempt is over** leaves the ledger as it was, unless it empties it. -/
theorem ledger_of_none (kept : event ≠ .purge) (h : g.verdict? event = none) :
    (g.step event).1.ledger = g.ledger := by
  by_cases answered : ∃ task, event = .answer task .taken
  · obtain ⟨task, rfl⟩ := answered
    rw [step, answerTask_of_idle (Option.map_eq_none_iff.mp h)]
  · exact ledger_eq_of_unanswered kept fun task same ↦ answered ⟨task, same⟩

end Ledger

/-! ## Who waits for a call -/

section Waiting

variable {g g' : Gateway α} {i task : Nat} {call : Call α}

theorem waitsFor_of_setIfInBounds {t : Task α} (h : g'.tasks = g.tasks.setIfInBounds task t)
    (waits : g'.waitsFor i = some call) :
    (i = task ∧ t.call? = some call) ∨ g.waitsFor i = some call := by
  rw [waitsFor, h, Array.getElem?_setIfInBounds] at waits
  by_cases same : task = i
  · rw [if_pos same] at waits
    split at waits
    · exact Or.inl ⟨same.symm, waits⟩
    · cases waits
  · rw [if_neg same] at waits
    exact Or.inr waits

theorem waitsFor_of_push {t : Task α} (h : g'.tasks = g.tasks.push t) (idle : t.call? = none)
    (waits : g'.waitsFor i = some call) : g.waitsFor i = some call := by
  rw [waitsFor, h, Array.getElem?_push] at waits
  by_cases last : i = g.tasks.size
  · rw [if_pos last, Option.bind_some, idle] at waits
    cases waits
  · rw [if_neg last] at waits
    exact waits

theorem waitsFor_setMonitor (source : Source) (monitor : Monitor) :
    (g.setMonitor source monitor).waitsFor i = g.waitsFor i := by
  rcases g.setMonitor_tasks source monitor with same | woken
  · rw [waitsFor, same, waitsFor]
  · rw [waitsFor, woken, Array.getElem?_map, waitsFor]
    cases g.tasks[i]? with
    | none => rfl
    | some t => exact call?_wake t

theorem waitsFor_of_next {role : Role} {rest : List α} {taken : Nat}
    (h : g'.tasks = g.tasks.setIfInBounds task ⟨role, role.next rest taken⟩)
    (waits : g'.waitsFor i = some call) : i ≠ task ∧ g.waitsFor i = some call := by
  constructor
  · rintro rfl
    rw [waitsFor, h, Array.getElem?_setIfInBounds, if_pos rfl] at waits
    split at waits
    · rw [Option.bind_some, call?_next] at waits
      cases waits
    · cases waits
  · rcases waitsFor_of_setIfInBounds h waits with ⟨-, idle⟩ | before
    · rw [call?_next] at idle
      cases idle
    · exact before

variable [Parcel α] {event : Event α}

theorem waitsFor_answer {outcome : ProcessorOutcome} (waiting : g.waitsFor task ≠ none)
    (waits : (g.step (.answer task outcome)).1.waitsFor i = some call) :
    i ≠ task ∧ g.waitsFor i = some call := by
  obtain ⟨call', waits'⟩ := Option.ne_none_iff_exists'.mp waiting
  obtain ⟨role, rest, taken, there⟩ := exists_of_waitsFor waits'
  rw [step, answerTask_of_trying there] at waits
  cases outcome with
  | taken =>
    exact waitsFor_of_next (congrArg Gateway.tasks (recordAttempt_fst ..)) waits
  | refused fault =>
    exact waitsFor_of_next (congrArg Gateway.tasks (failAttempt_fst ..)) waits

theorem call?_look {attempt : Attempt α} {at_ : Millis} {stage : Stage}
    (looked : g.look attempt at_ = .ok stage) (task : Nat)
    (waits : Attempt.call? { attempt with stage } = some call) :
    attempt.call? = some call ∨ callOf task attempt.payload attempt.stage stage =
      [.called task call.source call.payload call.payment call.requestedAt] := by
  obtain ⟨payload, before⟩ := attempt
  cases before with
  | calling payment source at_ =>
    cases looked
    exact Or.inl waits
  | _ =>
    cases stage with
    | calling payment source requestedAt =>
      cases waits
      exact Or.inr rfl
    | _ => cases waits

/-- **A task waits for what it has called**: for a call after a step, if it did so before, or if it
has begun the call in that step and nothing else was done. -/
theorem waitsFor_step (h : (g.step event).1.waitsFor i = some call) :
    g.waitsFor i = some call ∨ (g.step event).2 =
      [.called i call.source call.payload call.payment call.requestedAt] := by
  cases event with
  | ingest payload =>
    rw [step, ingest] at h
    split at h
    · exact Or.inl h
    · exact Or.inl (waitsFor_of_push (g := g) rfl rfl h)
  | run task requestedAt =>
    rw [step, runTask] at h ⊢
    split at h
    · next role attempt rest taken there =>
      split at h
      · next stage looked =>
        rcases waitsFor_of_setIfInBounds rfl h with ⟨same, waits⟩ | before
        · subst same
          rcases call?_look looked i waits with had | begins
          · rw [waitsFor, there]
            exact Or.inl had
          · exact Or.inr begins
        · exact Or.inl before
      · exact Or.inl (waitsFor_of_next (congrArg Gateway.tasks (failAttempt_fst ..)) h).2
    · exact Or.inl (waitsFor_of_next (congrArg Gateway.tasks (takeBatch_fst ..)) h).2
    · exact Or.inl h
  | answer task outcome =>
    by_cases waiting : g.waitsFor task = none
    · rw [step, answerTask_of_idle waiting] at h
      exact Or.inl h
    · exact Or.inl (waitsFor_answer waiting h).2
  | wakeWorker task =>
    rw [step] at h
    split at h
    · rcases waitsFor_of_setIfInBounds rfl h with ⟨-, idle⟩ | before
      · cases idle
      · exact Or.inl before
    · exact Or.inl h
  | markDown source now => exact Or.inl (waitsFor_setMonitor source _ ▸ h)
  | markUp source => exact Or.inl (waitsFor_setMonitor source _ ▸ h)
  | expire source deadline => exact Or.inl (waitsFor_setMonitor source _ ▸ h)
  | purge => exact Or.inl h
  | _ => exact Or.inl (waitsFor_of_push (g := g) rfl rfl h)

omit [Parcel α] in
theorem callOf_calling {payload : α} {payment : Payment} {source : Source} {requestedAt : Millis}
    {before : Stage} (fresh : ∀ payment source at_, before ≠ .calling payment source at_) :
    callOf task payload before (.calling payment source requestedAt)
      = [.called task source payload payment requestedAt] := by
  cases before with
  | calling payment source at_ => exact absurd rfl (fresh payment source at_)
  | _ => rfl

/-- **A call begins alone**: the step does nothing else, and its task waits for it. -/
theorem called_step {source : Source} {payload : α} {payment : Payment} {requestedAt : Millis}
    (h : .called task source payload payment requestedAt ∈ (g.step event).2) :
    (g.step event).2 = [.called task source payload payment requestedAt] ∧
      (g.step event).1.waitsFor task = some ⟨source, payload, payment, requestedAt⟩ := by
  cases event with
  | ingest payload =>
    rw [step, ingest] at h
    split at h
    · cases (idle_enqueue _ h).1
    · cases h
  | run i at_ =>
    rw [step, runTask] at h ⊢
    split at h
    · next role attempt rest taken there =>
      split at h
      · next stage looked =>
        obtain ⟨fresh, p, s, t, rfl, same⟩ := mem_callOf h
        cases same
        obtain ⟨within, -⟩ := Array.getElem?_eq_some_iff.mp there
        refine ⟨callOf_calling fresh, ?_⟩
        rw [waitsFor, setTask, Array.getElem?_setIfInBounds, if_pos rfl, if_pos within]
        rfl
      · cases (idle_failAttempt _ h).1
    · cases (idle_nextAttempt _ h).1
    · cases h
  | answer i outcome =>
    rw [step, answerTask] at h
    split at h
    · split at h
      · rcases List.mem_cons.mp h with other | next
        · cases other
        · cases (idle_nextAttempt _ next).1
      · cases (idle_failAttempt _ h).1
    · cases h
  | wakeWorker i =>
    rw [step] at h
    split at h <;> cases h
  | _ => cases h

end Waiting

end PaymentRelay.Gateway
