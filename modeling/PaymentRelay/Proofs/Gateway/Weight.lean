import Mathlib.Algebra.GroupWithZero.Nat
import PaymentRelay.Proofs.Gateway.Turns

/-!
# Nothing is lost and nothing is made

A payload is somewhere: in the hands of a task, in the retry queue, or at its end. Every step moves
payloads from one of these places to another, and what a step brings in is the payload that its
event hands in. So if every payload has a weight, the weight of what the gateway holds and of what
has come to an end is the weight of what was handed in, whatever the weights are. With the right
weights this is a statement about one payload, and with other weights it is a count.
-/

namespace PaymentRelay.Gateway

variable {α : Type}

/-! ## How payloads end -/

/-- How the way of a payload through the gateway can end. -/
inductive Fate where
  /-- Its payment is recorded. -/
  | recorded
  /-- It says no payment. -/
  | invalid
  /-- It found the retry queue full. -/
  | overflowed
  /-- It is back with a caller who waited for the result. -/
  | returned
deriving DecidableEq, Repr

/-- The payload that comes to its end with an effect, and how. -/
def Effect.end? : Effect α → Option (Fate × α)
  | .recorded _ _ payload _ _ => some (.recorded, payload)
  | .discarded _ payload _ => some (.invalid, payload)
  | .dropped payload _ => some (.overflowed, payload)
  | .returned payload _ => some (.returned, payload)
  | .called .. | .queued _ | .finished .. | .rested _ => none

/-- The payloads that came to an end, in order. -/
def ends (effects : List (Effect α)) : List (Fate × α) := effects.filterMap Effect.end?

/-- The payloads that came to such an end, in order. -/
def ended (fate : Fate) (effects : List (Effect α)) : List α :=
  ((ends effects).filter (·.1 = fate)).map (·.2)

/-- The payload that an event hands in, for whomever. -/
def Event.payload? : Event α → Option α
  | .ingest payload => some payload
  | .process payload => some payload
  | _ => none

/-! ## Weights -/

/-- The weight of some payloads together. -/
def weigh (w : α → Nat) (payloads : List α) : Nat := (payloads.map w).sum

@[simp] theorem weigh_nil (w : α → Nat) : weigh w [] = 0 := rfl

@[simp] theorem weigh_cons (w : α → Nat) (payload : α) (payloads : List α) :
    weigh w (payload :: payloads) = w payload + weigh w payloads := List.sum_cons

@[simp] theorem weigh_append (w : α → Nat) (ps qs : List α) :
    weigh w (ps ++ qs) = weigh w ps + weigh w qs := by
  rw [weigh, List.map_append, List.sum_append]
  rfl

/-- What all tasks together come to, if each comes to so much. -/
def tally (g : Gateway α) (f : Task α → Nat) : Nat := (g.tasks.toList.map f).sum

theorem sum_map_set {β : Type} (f : β → Nat) {l : List β} {i : Nat} {a : β} (b : β)
    (h : l[i]? = some a) : ((l.set i b).map f).sum + f a = (l.map f).sum + f b := by
  induction l generalizing i with
  | nil => cases h
  | cons c l ih =>
    cases i with
    | zero =>
      cases h
      simp only [List.set_cons_zero, List.map_cons, List.sum_cons]
      omega
    | succ i =>
      have := ih h
      simp only [List.set_cons_succ, List.map_cons, List.sum_cons]
      omega

theorem tally_of_setIfInBounds {g : Gateway α} (g' : Gateway α) (f : Task α → Nat) {task : Nat}
    {t t' : Task α} (there : g.tasks[task]? = some t)
    (h : g'.tasks = g.tasks.setIfInBounds task t') :
    g'.tally f + f t = g.tally f + f t' := by
  rw [tally, h, Array.toList_setIfInBounds]
  exact sum_map_set f t' (by rw [Array.getElem?_toList, there])

theorem tally_of_push {g : Gateway α} (g' : Gateway α) (f : Task α → Nat) {t : Task α}
    (h : g'.tasks = g.tasks.push t) : g'.tally f = g.tally f + f t := by
  rw [tally, h, Array.toList_push, List.map_append, List.sum_append, List.map_singleton,
    List.sum_singleton]
  rfl

theorem tally_setMonitor (g : Gateway α) (f : Task α → Nat) (woken : ∀ t, f t.wake = f t)
    (source : Source) (monitor : Monitor) : (g.setMonitor source monitor).tally f = g.tally f := by
  rcases g.setMonitor_tasks source monitor with same | mapped
  · rw [tally, same, tally]
  · rw [tally, mapped, Array.toList_map, List.map_map, tally]
    exact congrArg List.sum (List.map_congr_left fun t _ ↦ woken t)

/-! ## Conservation

`load` is what the gateway holds and `spent` what has come to an end. Each part of a step is weighed
by itself; the parts that end an attempt take one payload out of the hands of a task, and `dispose`
says where that one goes. -/

/-- The weight of all payloads in the hands of tasks. -/
def held (w : α → Nat) (g : Gateway α) : Nat := g.tally fun t ↦ weigh w t.payloads

/-- The weight of all payloads in the retry queue. -/
def waiting (w : α → Nat) (g : Gateway α) : Nat := weigh w g.queue.entries.toList

/-- The weight of all payloads that the gateway holds. -/
def load (w : α → Nat) (g : Gateway α) : Nat := held w g + waiting w g

/-- The weight of all payloads that came to an end. -/
def spent (w : α → Nat) (effects : List (Effect α)) : Nat := weigh (fun e ↦ w e.2) (ends effects)

section Conservation

variable {w : α → Nat} {g : Gateway α}

theorem spent_append (effects more : List (Effect α)) :
    spent w (effects ++ more) = spent w effects + spent w more := by
  rw [spent, ends, List.filterMap_append, weigh_append]
  rfl

theorem payloads_next (role : Role) (rest : List α) (taken : Nat) :
    Task.payloads ⟨role, role.next rest taken⟩ = rest := by
  cases rest with
  | cons payload rest => rfl
  | nil =>
    cases role with
    | worker =>
      rw [Role.next]
      split <;> rfl
    | _ => rfl

theorem ends_nextAttempt (g : Gateway α) (task : Nat) (role : Role) (rest : List α) (taken : Nat)
    (result : TaskResult) : ends (g.nextAttempt task role rest taken result).2 = [] := by
  refine List.filterMap_eq_nil_iff.mpr fun effect h ↦ ?_
  rcases mem_nextAttempt_snd h with ⟨result, rfl⟩ | rfl
  · rfl
  · rfl

theorem spent_nextAttempt (g : Gateway α) (task : Nat) (role : Role) (rest : List α) (taken : Nat)
    (result : TaskResult) : spent w (g.nextAttempt task role rest taken result).2 = 0 := by
  rw [spent, ends_nextAttempt]
  rfl

theorem held_next {g' : Gateway α} {task : Nat} {t : Task α} {role : Role} {rest : List α}
    {taken : Nat} (there : g.tasks[task]? = some t)
    (h : g'.tasks = g.tasks.setIfInBounds task ⟨role, role.next rest taken⟩) :
    held w g' + weigh w t.payloads = held w g + weigh w rest := by
  rw [held, tally_of_setIfInBounds g' _ there h, payloads_next]
  rfl

theorem waiting_enqueue (g : Gateway α) (payload : α) :
    waiting w (g.enqueue payload).1 + spent w (g.enqueue payload).2 = waiting w g + w payload := by
  rw [enqueue, RetryQueue.enqueue, waiting]
  split
  · rfl
  · rw [Array.toList_push, weigh_append]
    rfl

/-- A payload whose attempt failed goes to the retry queue or comes to its end. -/
theorem waiting_dispose (g : Gateway α) (role : Role) (payload : α) (fault : PaymentFault) :
    waiting w (g.dispose role payload fault).1 + spent w (g.dispose role payload fault).2
      = waiting w g + w payload := by
  rw [dispose]
  split
  · rfl
  split
  · exact waiting_enqueue g payload
  · rfl

theorem load_failAttempt {task : Nat} {role : Role} {attempt : Attempt α} {rest : List α}
    {taken : Nat} (there : g.tasks[task]? = some ⟨role, .trying attempt rest taken⟩)
    (fault : PaymentFault) :
    load w (g.failAttempt task role attempt rest taken fault).1
        + spent w (g.failAttempt task role attempt rest taken fault).2 = load w g := by
  -- the payload leaves the hands of its task and goes where `dispose` puts it
  have hands := held_next (w := w) there
    (congrArg Gateway.tasks (g.failAttempt_fst task role attempt rest taken fault))
  have queue := waiting_dispose (w := w) g role attempt.payload fault
  have effects : spent w (g.failAttempt task role attempt rest taken fault).2
      = spent w (g.dispose role attempt.payload fault).2 := by
    rw [failAttempt]
    dsimp only
    rw [spent_append, spent_nextAttempt, Nat.add_zero]
  have moved : waiting w (g.failAttempt task role attempt rest taken fault).1
      = waiting w (g.dispose role attempt.payload fault).1 := by
    rw [failAttempt_fst]
    rfl
  rw [Task.payloads, weigh_cons] at hands
  rw [load, load, effects, moved]
  omega

theorem load_recordAttempt {task : Nat} {role : Role} {attempt : Attempt α} {rest : List α}
    {taken : Nat} (there : g.tasks[task]? = some ⟨role, .trying attempt rest taken⟩)
    (payment : Payment) (source : Source) (requestedAt : Millis) :
    load w (g.recordAttempt task role attempt.payload payment source requestedAt rest taken).1
        + spent w
            (g.recordAttempt task role attempt.payload payment source requestedAt rest taken).2
      = load w g := by
  have hands := held_next (w := w) there (congrArg Gateway.tasks
    (g.recordAttempt_fst task role attempt.payload payment source requestedAt rest taken))
  have effects :
      spent w (g.recordAttempt task role attempt.payload payment source requestedAt rest taken).2
        = w attempt.payload := by
    rw [recordAttempt]
    dsimp only
    rw [← List.singleton_append, spent_append, spent_nextAttempt]
    rfl
  have kept :
      waiting w (g.recordAttempt task role attempt.payload payment source requestedAt rest taken).1
        = waiting w g := by
    rw [recordAttempt_fst]
    rfl
  rw [Task.payloads, weigh_cons] at hands
  rw [load, load, effects, kept]
  omega

theorem load_takeBatch {task : Nat} {role : Role}
    (there : g.tasks[task]? = some ⟨role, .due⟩) :
    load w (g.takeBatch task role).1 + spent w (g.takeBatch task role).2 = load w g := by
  -- the batch changes hands, and nothing comes to its end
  have hands := held_next (w := w) there (congrArg Gateway.tasks (g.takeBatch_fst task role))
  have effects : spent w (g.takeBatch task role).2 = 0 := spent_nextAttempt ..
  have split : waiting w g = weigh w g.batch + waiting w (g.takeBatch task role).1 := by
    rw [takeBatch_fst, waiting, ← batch_append, weigh_append]
    rfl
  rw [Task.payloads, weigh_nil] at hands
  rw [load, load, effects, split]
  omega

theorem load_setTask {task : Nat} {t t' : Task α} (there : g.tasks[task]? = some t)
    (same : t'.payloads = t.payloads) : load w (g.setTask task t') = load w g := by
  have hands := tally_of_setIfInBounds (g.setTask task t') (fun t ↦ weigh w t.payloads) there rfl
  rw [same] at hands
  have kept : held w (g.setTask task t') = held w g := Nat.add_right_cancel hands
  rw [load, kept]
  rfl

theorem spent_callOf (task : Nat) (payload : α) (before after : Stage) :
    spent w (callOf task payload before after) = 0 := by
  unfold callOf
  split <;> rfl

theorem load_runTask [Parcel α] (task : Nat) (requestedAt : Millis) :
    load w (g.runTask task requestedAt).1 + spent w (g.runTask task requestedAt).2 = load w g := by
  rw [runTask]
  split
  · next role attempt rest taken there =>
    split
    · next stage looked =>
      have kept : load w (g.setTask task ⟨role, .trying { attempt with stage } rest taken⟩)
          = load w g := load_setTask there rfl
      dsimp only
      rw [kept, spent_callOf, Nat.add_zero]
    · next fault looked => exact load_failAttempt there _
  · next role there => exact load_takeBatch there
  · rfl

theorem load_answerTask (task : Nat) (outcome : ProcessorOutcome) :
    load w (g.answerTask task outcome).1 + spent w (g.answerTask task outcome).2 = load w g := by
  rw [answerTask]
  split
  · next role payload payment source requestedAt rest taken there =>
    split
    · exact load_recordAttempt there payment source requestedAt
    · exact load_failAttempt there _
  · rfl

theorem load_addTask (t : Task α) : load w (g.addTask t) = load w g + weigh w t.payloads := by
  have hands := tally_of_push (g.addTask t) (fun t ↦ weigh w t.payloads) rfl
  rw [load, held, hands, load, held, Nat.add_right_comm]
  rfl

theorem load_setMonitor (source : Source) (monitor : Monitor) :
    load w (g.setMonitor source monitor) = load w g := by
  rw [load, held, tally_setMonitor g _ (fun t ↦ by rw [Task.wake_payloads]), setMonitor_eq]
  rfl

/-- **Conservation, one step.** What the gateway holds and what came to an end weighs as much as
what the gateway held and what the event hands in. -/
theorem load_step [Parcel α] (event : Event α) :
    load w (g.step event).1 + spent w (g.step event).2
      = load w g + weigh w event.payload?.toList := by
  cases event with
  | ingest payload =>
    rw [step, ingest]
    split
    · have queue := waiting_enqueue (w := w) g payload
      rw [load, load, Nat.add_assoc, queue, ← Nat.add_assoc]
      rfl
    · exact load_addTask (g := { g with freeSlots := g.freeSlots - 1 }) _
  | process payload => exact load_addTask _
  | sweep => exact load_addTask _
  | startWorker => exact load_addTask _
  | run task requestedAt => exact load_runTask task requestedAt
  | answer task outcome => exact load_answerTask task outcome
  | wakeWorker task =>
    rw [step]
    split
    · next role there => exact load_setTask there rfl
    · rfl
  | markDown source now => exact load_setMonitor source _
  | markUp source => exact load_setMonitor source _
  | expire source deadline => exact load_setMonitor source _
  | purge => rfl

/-- **Conservation, a whole run.** -/
theorem load_run [Parcel α] (g : Gateway α) (events : List (Event α)) :
    load w (g.run events).1 + spent w (g.run events).2
      = load w g + weigh w (events.filterMap Event.payload?) := by
  induction events generalizing g with
  | nil => rfl
  | cons event events ih =>
    have one := load_step (w := w) (g := g) event
    have rest := ih (g.step event).1
    rw [run_cons]
    dsimp only
    rw [spent_append]
    have handed : weigh w ((event :: events).filterMap Event.payload?)
        = weigh w event.payload?.toList + weigh w (events.filterMap Event.payload?) := by
      cases h : event.payload? with
      | none => rw [List.filterMap_cons_none h, Option.toList_none, weigh_nil, Nat.zero_add]
      | some payload =>
        rw [List.filterMap_cons_some h, Option.toList_some, weigh_cons, weigh_cons, weigh_nil,
          Nat.add_zero]
    omega

end Conservation

end PaymentRelay.Gateway
