import PaymentRelay.Proofs.Gateway.Turns

/-!
# Labels make no difference

The gateway looks at the text of a payload and at nothing else about it. So if payloads are given
labels, a run does with the labelled payloads what it would do with their texts: taking the labels
off before the run or after it is the same. This is what allows a statement about each single
payload, which among payloads of the same text could not even be made, to be a statement about the
gateway as it is.
-/

namespace PaymentRelay

variable {α β : Type}

/-! ## Taking labels off -/

def Attempt.map (f : α → β) (attempt : Attempt α) : Attempt β := ⟨f attempt.payload, attempt.stage⟩

def Activity.map (f : α → β) : Activity α → Activity β
  | .due => .due
  | .trying attempt rest taken => .trying (attempt.map f) (rest.map f) taken
  | .resting => .resting
  | .finished => .finished

def Task.map (f : α → β) (t : Task α) : Task β := ⟨t.role, t.activity.map f⟩

def RetryQueue.map (f : α → β) (q : RetryQueue α) : RetryQueue β :=
  ⟨q.capacity, q.entries.map f, q.dropped⟩

namespace Gateway

def map (f : α → β) (g : Gateway α) : Gateway β :=
  ⟨g.failover, g.freeSlots, g.health, g.ledger, g.queue.map f, g.tasks.map (Task.map f)⟩

def Effect.map (f : α → β) : Effect α → Effect β
  | .called task source payload payment requestedAt =>
    .called task source (f payload) payment requestedAt
  | .recorded task source payload payment requestedAt =>
    .recorded task source (f payload) payment requestedAt
  | .discarded role payload fault => .discarded role (f payload) fault
  | .returned payload fault => .returned (f payload) fault
  | .queued payload => .queued (f payload)
  | .dropped payload report => .dropped (f payload) report
  | .finished task result => .finished task result
  | .rested task => .rested task

def Event.map (f : α → β) : Event α → Event β
  | .ingest payload => .ingest (f payload)
  | .process payload => .process (f payload)
  | .sweep => .sweep
  | .startWorker => .startWorker
  | .run task requestedAt => .run task requestedAt
  | .answer task outcome => .answer task outcome
  | .wakeWorker task => .wakeWorker task
  | .markDown source now => .markDown source now
  | .markUp source => .markUp source
  | .expire source deadline => .expire source deadline
  | .purge => .purge

/-- The labels come off what a step results in. -/
def mapResult (f : α → β) (r : Gateway α × List (Effect α)) : Gateway β × List (Effect β) :=
  (r.1.map f, r.2.map (Effect.map f))

/-! ## Each part of a step takes no notice -/

section Parts

variable (f : α → β)

theorem wake_map (t : Task α) : (t.map f).wake = t.wake.map f := by
  obtain ⟨role, _ | _ | _ | _⟩ := t <;> rfl

theorem setTask_map (g : Gateway α) (task : Nat) (t : Task α) :
    (g.map f).setTask task (t.map f) = (g.setTask task t).map f := by
  rw [setTask, setTask, map, map, Array.map_setIfInBounds]

theorem addTask_map (g : Gateway α) (t : Task α) :
    (g.map f).addTask (t.map f) = (g.addTask t).map f := by
  rw [addTask, addTask, map, map, Array.map_push]

theorem setMonitor_map (g : Gateway α) (source : Source) (monitor : Monitor) :
    (g.map f).setMonitor source monitor = (g.setMonitor source monitor).map f := by
  have woken :
      (g.tasks.map (Task.map f)).map Task.wake = (g.tasks.map Task.wake).map (Task.map f) := by
    rw [Array.map_map, Array.map_map]
    exact Array.map_congr_left fun t _ ↦ wake_map f t
  rw [setMonitor, setMonitor, map]
  dsimp only
  split
  · rw [map, woken]
  · rfl

theorem isFull_map (q : RetryQueue α) : (q.map f).isFull = q.isFull := by
  rw [RetryQueue.isFull, RetryQueue.isFull, RetryQueue.size, RetryQueue.size, RetryQueue.map,
    Array.size_map]

theorem enqueue_map (g : Gateway α) (payload : α) :
    (g.map f).enqueue (f payload) = mapResult f (g.enqueue payload) := by
  rw [enqueue, enqueue, map]
  dsimp only
  rw [isFull_map, RetryQueue.enqueue, RetryQueue.enqueue, isFull_map, mapResult]
  split
  · rfl
  · rw [map, RetryQueue.map, RetryQueue.map, Array.map_push]
    rfl

theorem finish_map (g : Gateway α) (task : Nat) (role : Role) (result : TaskResult) :
    (g.map f).finish task role result = mapResult f (g.finish task role result) := by
  have gone : (g.map f).setTask task ⟨role, .finished⟩ = (g.setTask task ⟨role, .finished⟩).map f :=
    setTask_map f g task ⟨role, .finished⟩
  rw [finish, finish, gone, mapResult]
  dsimp only
  split <;> rfl

theorem endBatch_map (g : Gateway α) (task : Nat) (role : Role) (taken : Nat)
    (result : TaskResult) :
    (g.map f).endBatch task role taken result
      = mapResult f (g.endBatch task role taken result) := by
  cases role with
  | dispatch => exact finish_map f g task .dispatch result
  | single => exact finish_map f g task .single result
  | sweep => exact finish_map f g task .sweep (.swept taken)
  | worker =>
    rw [endBatch, endBatch, mapResult]
    split
    · rw [← setTask_map]
      rfl
    · rw [← setTask_map]
      rfl

theorem nextAttempt_map (g : Gateway α) (task : Nat) (role : Role) (rest : List α) (taken : Nat)
    (result : TaskResult) :
    (g.map f).nextAttempt task role (rest.map f) taken result
      = mapResult f (g.nextAttempt task role rest taken result) := by
  cases rest with
  | cons payload rest =>
    rw [List.map_cons, nextAttempt, nextAttempt, mapResult, ← setTask_map]
    rfl
  | nil => exact endBatch_map f g task role taken result

theorem dispose_map (g : Gateway α) (role : Role) (payload : α) (fault : PaymentFault) :
    (g.map f).dispose role (f payload) fault = mapResult f (g.dispose role payload fault) := by
  rw [dispose, dispose]
  split
  · rfl
  split
  · exact enqueue_map f g payload
  · rfl

theorem failAttempt_map (g : Gateway α) (task : Nat) (role : Role) (attempt : Attempt α)
    (rest : List α) (taken : Nat) (fault : PaymentFault) :
    (g.map f).failAttempt task role (attempt.map f) (rest.map f) taken fault
      = mapResult f (g.failAttempt task role attempt rest taken fault) := by
  rw [failAttempt, failAttempt, Attempt.map]
  dsimp only
  rw [dispose_map, mapResult]
  dsimp only
  rw [nextAttempt_map, mapResult, mapResult, List.map_append]

theorem recordAttempt_map (g : Gateway α) (task : Nat) (role : Role) (payload : α)
    (payment : Payment) (source : Source) (requestedAt : Millis) (rest : List α) (taken : Nat) :
    (g.map f).recordAttempt task role (f payload) payment source requestedAt (rest.map f) taken
      = mapResult f
          (g.recordAttempt task role payload payment source requestedAt rest taken) := by
  have saved := nextAttempt_map f
    { g with ledger := g.ledger.save source requestedAt payment.amount } task role rest taken
    .recorded
  rw [recordAttempt, recordAttempt]
  dsimp only [map] at saved ⊢
  rw [saved]
  rfl

theorem drain_map (q : RetryQueue α) (n : Nat) :
    (q.map f).drain n = ((q.drain n).1.map f, (q.drain n).2.map f) := by
  rw [RetryQueue.drain, RetryQueue.drain, RetryQueue.map, RetryQueue.map, RetryQueue.size,
    RetryQueue.size, Array.size_map, Array.map_extract, Array.map_extract]

theorem takeBatch_map (g : Gateway α) (task : Nat) (role : Role) :
    (g.map f).takeBatch task role = mapResult f (g.takeBatch task role) := by
  have drained := drain_map f g.queue batchSize
  have taken := nextAttempt_map f { g with queue := (g.queue.drain batchSize).2 } task role g.batch
    g.batch.length (.swept g.batch.length)
  rw [takeBatch, takeBatch]
  dsimp only [map] at taken ⊢
  rw [drained]
  dsimp only
  rw [Array.toList_map, Array.size_map, ← Array.length_toList]
  exact taken

theorem look_map [Parcel α] [Parcel β] (same : ∀ a, Parcel.text (f a) = Parcel.text a)
    (g : Gateway α) (attempt : Attempt α) (requestedAt : Millis) :
    (g.map f).look (attempt.map f) requestedAt = g.look attempt requestedAt := by
  rw [look, look, Attempt.map, same]
  rfl

theorem callOf_map (task : Nat) (payload : α) (before after : Stage) :
    callOf task (f payload) before after
      = (callOf task payload before after).map (Effect.map f) := by
  unfold callOf
  split <;> rfl

theorem answerTask_map (g : Gateway α) (task : Nat) (outcome : ProcessorOutcome) :
    (g.map f).answerTask task outcome = mapResult f (g.answerTask task outcome) := by
  rw [answerTask, answerTask]
  have there : (g.map f).tasks[task]? = (g.tasks[task]?).map (Task.map f) := Array.getElem?_map ..
  rw [there]
  rcases g.tasks[task]? with _ | ⟨role, activity⟩
  · rfl
  cases activity with
  | trying attempt rest taken =>
    obtain ⟨payload, stage⟩ := attempt
    dsimp only [Option.map_some, Task.map, Activity.map, Attempt.map]
    cases stage with
    | calling payment source requestedAt =>
      cases outcome with
      | taken => exact recordAttempt_map f g task role payload payment source requestedAt rest taken
      | refused fault =>
        exact failAttempt_map f g task role ⟨payload, .calling payment source requestedAt⟩ rest
          taken _
    | _ => rfl
  | _ => rfl

theorem ingest_map (g : Gateway α) (payload : α) :
    (g.map f).ingest (f payload) = mapResult f (g.ingest payload) := by
  by_cases full : g.freeSlots = 0
  · rw [ingest, ingest, if_pos full, if_pos (show (g.map f).freeSlots = 0 from full)]
    exact enqueue_map f g payload
  · rw [ingest, ingest, if_neg full, if_neg (show ¬(g.map f).freeSlots = 0 from full)]
    exact Prod.ext (addTask_map f { g with freeSlots := g.freeSlots - 1 }
      (.carrying .dispatch payload)) rfl

end Parts

/-! ## A step, and a run -/

section Runs

variable [Parcel α] [Parcel β] {f : α → β} (same : ∀ a, Parcel.text (f a) = Parcel.text a)
include same

theorem runTask_map (g : Gateway α) (task : Nat) (requestedAt : Millis) :
    (g.map f).runTask task requestedAt = mapResult f (g.runTask task requestedAt) := by
  rw [runTask, runTask]
  have there : (g.map f).tasks[task]? = (g.tasks[task]?).map (Task.map f) := Array.getElem?_map ..
  rw [there]
  rcases g.tasks[task]? with _ | ⟨role, activity⟩
  · rfl
  cases activity with
  | due => exact takeBatch_map f g task role
  | resting => rfl
  | finished => rfl
  | trying attempt rest taken =>
    dsimp only [Option.map_some, Task.map, Activity.map]
    rw [look_map f same]
    split
    · next stage looked =>
      have moved := setTask_map f g task ⟨role, .trying { attempt with stage } rest taken⟩
      rw [mapResult, ← moved, ← callOf_map f]
      rfl
    · exact failAttempt_map f g task role attempt rest taken _

/-- **Labels make no difference to a step.** -/
theorem step_map (g : Gateway α) (event : Event α) :
    (g.map f).step (event.map f) = mapResult f (g.step event) := by
  cases event with
  | ingest payload => exact ingest_map f g payload
  | process payload => exact Prod.ext (addTask_map f g (.carrying .single payload)) rfl
  | sweep => exact Prod.ext (addTask_map f g (.sweeping .sweep)) rfl
  | startWorker => exact Prod.ext (addTask_map f g (.sweeping .worker)) rfl
  | run task requestedAt => exact runTask_map same g task requestedAt
  | answer task outcome => exact answerTask_map f g task outcome
  | wakeWorker task =>
    have there : (g.map f).tasks[task]? = (g.tasks[task]?).map (Task.map f) :=
      Array.getElem?_map ..
    rw [Event.map, step, step, there]
    rcases g.tasks[task]? with _ | ⟨role, activity⟩
    · rfl
    cases activity with
    | resting => exact Prod.ext (setTask_map f g task ⟨role, .due⟩) rfl
    | _ => rfl
  | markDown source now => exact Prod.ext (setMonitor_map f g source _) rfl
  | markUp source => exact Prod.ext (setMonitor_map f g source _) rfl
  | expire source deadline => exact Prod.ext (setMonitor_map f g source _) rfl
  | purge => rfl

/-- **Labels make no difference to a run.** -/
theorem run_map (g : Gateway α) (events : List (Event α)) :
    (g.map f).run (events.map (Event.map f)) = mapResult f (g.run events) := by
  induction events generalizing g with
  | nil => rfl
  | cons event events ih =>
    rw [List.map_cons, run_cons, run_cons, step_map same, mapResult]
    dsimp only
    rw [ih, mapResult, mapResult, List.map_append]

end Runs

end Gateway

end PaymentRelay
