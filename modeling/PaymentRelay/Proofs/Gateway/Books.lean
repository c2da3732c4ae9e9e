import PaymentRelay.Proofs.Gateway.Weight

/-!
# The books agree with what was done

Two things are written down as payloads come to their end: the ledger has the payments that were
recorded, and the retry queue counts the payloads that it had no room for. Both follow from the
effects alone: the ledger after a run is what the ledger was with the recorded payments saved one by
one, and the count is the number of payloads that were dropped.
-/

namespace PaymentRelay.Gateway

variable {α : Type}

/-! ## Ends, effect by effect -/

theorem ended_append (fate : Fate) (effects more : List (Effect α)) :
    ended fate (effects ++ more) = ended fate effects ++ ended fate more := by
  rw [ended, ends, List.filterMap_append, List.filter_append, List.map_append]
  rfl

theorem ended_nextAttempt (fate : Fate) (g : Gateway α) (task : Nat) (role : Role) (rest : List α)
    (taken : Nat) (result : TaskResult) :
    ended fate (g.nextAttempt task role rest taken result).2 = [] := by
  rw [ended, ends_nextAttempt]
  rfl

theorem mem_ended {fate : Fate} {effects : List (Effect α)} {p : α} :
    p ∈ ended fate effects ↔ ∃ effect ∈ effects, effect.end? = some (fate, p) := by
  rw [ended, List.mem_map]
  constructor
  · rintro ⟨⟨fate', p⟩, mem, rfl⟩
    rw [List.mem_filter, decide_eq_true_iff] at mem
    obtain ⟨mem, rfl⟩ := mem
    exact List.mem_filterMap.mp mem
  · rintro ⟨effect, mem, past⟩
    refine ⟨(fate, p), List.mem_filter.mpr ⟨List.mem_filterMap.mpr ⟨effect, mem, past⟩, ?_⟩, rfl⟩
    exact decide_eq_true rfl

/-! ## The ledger -/

def Effect.book (ledger : Ledger) : Effect α → Ledger
  | .recorded _ source _ payment requestedAt => ledger.save source requestedAt payment.amount
  | _ => ledger

/-- The ledger after some effects. -/
def book (ledger : Ledger) (effects : List (Effect α)) : Ledger := effects.foldl Effect.book ledger

theorem book_append (ledger : Ledger) (effects more : List (Effect α)) :
    book ledger (effects ++ more) = book (book ledger effects) more := List.foldl_append

theorem book_eq_self {ledger : Ledger} {effects : List (Effect α)}
    (h : ∀ task source payload payment requestedAt,
      .recorded task source payload payment requestedAt ∉ effects) :
    book ledger effects = ledger := by
  induction effects with
  | nil => rfl
  | cons effect effects ih =>
    have one : Effect.book ledger effect = ledger := by
      cases effect with
      | recorded => exact absurd List.mem_cons_self (h _ _ _ _ _)
      | _ => rfl
    rw [book, List.foldl_cons, one]
    exact ih fun task source payload payment requestedAt mem ↦
      h task source payload payment requestedAt (List.mem_cons_of_mem _ mem)

section Books

variable {g : Gateway α}

theorem book_nextAttempt (ledger : Ledger) (g : Gateway α) (task : Nat) (role : Role)
    (rest : List α) (taken : Nat) (result : TaskResult) :
    book ledger (g.nextAttempt task role rest taken result).2 = ledger := by
  refine book_eq_self fun _ _ _ _ _ mem ↦ ?_
  rcases mem_nextAttempt_snd mem with ⟨result, other⟩ | other <;> cases other

theorem book_enqueue (ledger : Ledger) (g : Gateway α) (payload : α) :
    book ledger (g.enqueue payload).2 = ledger := by
  refine book_eq_self fun _ _ _ _ _ mem ↦ ?_
  rcases mem_enqueue_snd mem with other | ⟨report, other⟩ <;> cases other

theorem book_failAttempt (task : Nat) (role : Role) (attempt : Attempt α) (rest : List α)
    (taken : Nat) (fault : PaymentFault) :
    (g.failAttempt task role attempt rest taken fault).1.ledger
      = book g.ledger (g.failAttempt task role attempt rest taken fault).2 := by
  rw [failAttempt_fst, failAttempt]
  dsimp only
  rw [book_append, book_nextAttempt, dispose]
  split
  · rfl
  split
  · exact (book_enqueue g.ledger g attempt.payload).symm
  · rfl

/-- **The ledger follows the effects of a step**, unless it is emptied. -/
theorem ledger_step [Parcel α] {event : Event α} (kept : event ≠ .purge) :
    (g.step event).1.ledger = book g.ledger (g.step event).2 := by
  cases event with
  | ingest payload =>
    rw [step, ingest]
    split
    · exact (book_enqueue g.ledger g payload).symm
    · rfl
  | run task requestedAt =>
    rw [step, runTask]
    split
    · next role attempt rest taken there =>
      split
      · next stage looked =>
        -- an attempt that goes on may call a processor, and that is not booked
        refine (book_eq_self fun _ _ _ _ _ mem ↦ ?_).symm
        obtain ⟨-, payment, source, at_, -, other⟩ := mem_callOf mem
        cases other
      · exact book_failAttempt task role attempt rest taken _
    · rw [takeBatch_fst, takeBatch, book_nextAttempt]
    · rfl
  | answer task outcome =>
    rw [step, answerTask]
    split
    · next role payload payment source requestedAt rest taken there =>
      split
      · rw [recordAttempt_fst, recordAttempt, book, List.foldl_cons]
        exact (book_nextAttempt _ _ task role rest taken _).symm
      · exact book_failAttempt task role _ rest taken _
    · rfl
  | wakeWorker task =>
    rw [step]
    split <;> rfl
  | markDown source now =>
    rw [step, setMonitor_eq]
    rfl
  | markUp source =>
    rw [step, setMonitor_eq]
    rfl
  | expire source deadline =>
    rw [step, setMonitor_eq]
    rfl
  | purge => exact absurd rfl kept
  | _ => rfl

/-- **The ledger has what was recorded** since it was last emptied, payment by payment. -/
theorem ledger_run [Parcel α] {events : List (Event α)} (kept : .purge ∉ events) :
    (g.run events).1.ledger = book g.ledger (g.run events).2 := by
  induction events generalizing g with
  | nil => rfl
  | cons event events ih =>
    obtain ⟨one, rest⟩ := not_or.mp (fun h ↦ kept (List.mem_cons.mpr h))
    rw [run_cons]
    dsimp only
    rw [book_append, ih rest, ledger_step (Ne.symm one)]

/-! ## The count of the retry queue -/

theorem dropped_enqueue (g : Gateway α) (payload : α) :
    (g.enqueue payload).1.queue.dropped
      = g.queue.dropped + (ended .overflowed (g.enqueue payload).2).length := by
  rw [enqueue, RetryQueue.enqueue]
  split <;> rfl

theorem dropped_dispose (g : Gateway α) (role : Role) (payload : α) (fault : PaymentFault) :
    (g.dispose role payload fault).1.queue.dropped
      = g.queue.dropped + (ended .overflowed (g.dispose role payload fault).2).length := by
  rw [dispose]
  split
  · rfl
  split
  · exact dropped_enqueue g payload
  · rfl

theorem dropped_failAttempt (task : Nat) (role : Role) (attempt : Attempt α) (rest : List α)
    (taken : Nat) (fault : PaymentFault) :
    (g.failAttempt task role attempt rest taken fault).1.queue.dropped = g.queue.dropped
      + (ended .overflowed (g.failAttempt task role attempt rest taken fault).2).length := by
  rw [failAttempt_fst, failAttempt]
  dsimp only
  rw [ended_append, ended_nextAttempt, List.append_nil, dropped_dispose]

theorem dropped_step [Parcel α] (event : Event α) :
    (g.step event).1.queue.dropped
      = g.queue.dropped + (ended .overflowed (g.step event).2).length := by
  cases event with
  | ingest payload =>
    rw [step, ingest]
    split
    · exact dropped_enqueue g payload
    · rfl
  | run task requestedAt =>
    rw [step, runTask]
    split
    · next role attempt rest taken there =>
      split
      · next stage looked =>
        have none : ended .overflowed (callOf task attempt.payload attempt.stage stage) = [] := by
          unfold callOf
          split <;> rfl
        dsimp only
        rw [none]
        rfl
      · exact dropped_failAttempt task role attempt rest taken _
    · rw [takeBatch_fst, takeBatch, ended_nextAttempt]
      rfl
    · rfl
  | answer task outcome =>
    rw [step, answerTask]
    split
    · next role payload payment source requestedAt rest taken there =>
      split
      · rw [recordAttempt_fst, recordAttempt]
        dsimp only
        rw [← List.singleton_append, ended_append, ended_nextAttempt]
        rfl
      · exact dropped_failAttempt task role _ rest taken _
    · rfl
  | wakeWorker task =>
    rw [step]
    split <;> rfl
  | markDown source now =>
    rw [step, setMonitor_eq]
    rfl
  | markUp source =>
    rw [step, setMonitor_eq]
    rfl
  | expire source deadline =>
    rw [step, setMonitor_eq]
    rfl
  | _ => rfl

/-- **The count is how many were dropped.** -/
theorem dropped_run [Parcel α] (events : List (Event α)) :
    (g.run events).1.queue.dropped
      = g.queue.dropped + (ended .overflowed (g.run events).2).length := by
  induction events generalizing g with
  | nil => rfl
  | cons event events ih =>
    rw [run_cons]
    dsimp only
    rw [ih, dropped_step, ended_append, List.length_append, Nat.add_assoc]

theorem dropped_run_new [Parcel α] (terms : Terms) (events : List (Event α)) :
    ((new terms).run events).1.queue.dropped
      = (ended .overflowed ((new terms).run events).2).length := by
  have none : (new terms : Gateway α).queue.dropped = 0 := rfl
  rw [dropped_run, none, Nat.zero_add]

end Books

end PaymentRelay.Gateway
