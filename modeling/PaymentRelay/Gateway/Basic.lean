import PaymentRelay.Gateway.Notice
import PaymentRelay.Gateway.Task
import PaymentRelay.Health.Monitor
import PaymentRelay.Ledger
import PaymentRelay.Retry.Queue

/-!
# The gateway

The gateway takes payloads, lets tasks carry them to a processor, and records what a processor took.
A payload that was handed in gets a task of its own as long as there are free slots, and goes to the
retry queue when there are none; so does a payload whose call failed. What says no payment is
dropped, and so is what finds the retry queue full.

Here is what the gateway remembers and how the parts change together. What happened is returned
beside the new state, as a list of effects in order.
-/

namespace PaymentRelay

/-- What the gateway remembers. -/
structure Gateway (α : Type) where
  /-- Fallback may be called while main is down. -/
  failover : Bool
  /-- How many payloads more may be given a task of their own. -/
  freeSlots : Nat
  health : PerSource Monitor
  ledger : Ledger
  queue : RetryQueue α
  /-- All tasks ever begun, by number. -/
  tasks : Array (Task α)
deriving DecidableEq, Repr

namespace Gateway

variable {α : Type}

/-- What a step of the gateway did. -/
inductive Effect (α : Type) where
  /-- A processor is called with the payment that a payload says. -/
  | called (task : Nat) (source : Source) (payload : α) (payment : Payment) (requestedAt : Millis)
  /-- The payment that a payload says is recorded. -/
  | recorded (task : Nat) (source : Source) (payload : α) (payment : Payment)
    (requestedAt : Millis)
  /-- A payload that says no payment is dropped. -/
  | discarded (role : Role) (payload : α) (fault : PaymentFault)
  /-- A payload goes back to a caller who waits for the result. -/
  | returned (payload : α) (fault : PaymentFault)
  /-- A payload is put into the retry queue. -/
  | queued (payload : α)
  /-- A payload found the retry queue full and is dropped, which may be worth a report. -/
  | dropped (payload : α) (report : Option String)
  /-- A task is over. -/
  | finished (task : Nat) (result : TaskResult)
  /-- A task goes to sleep. -/
  | rested (task : Nat)
deriving DecidableEq, Repr

def Effect.notice? : Effect α → Option Notice
  | .discarded role _ fault =>
    match role with
    | .dispatch => some (.paymentDropped fault)
    | .single => none
    | .sweep | .worker => some (.queuedPayloadDropped fault)
  | .dropped _ report => report.map .queueFull
  | _ => none

/-- What a new gateway is told. -/
structure Terms where
  failover : Bool
  /-- How many payloads may have a task of their own, if at least one. -/
  maxInFlight : Nat
  queueCapacity : Nat
  recoveryDelay : Ticks
deriving DecidableEq, Repr

/-- How many payloads may have a task of their own. -/
def Terms.slots (terms : Terms) : Nat := max terms.maxInFlight 1

def new (terms : Terms) : Gateway α where
  failover := terms.failover
  freeSlots := terms.slots
  health := ⟨.new .main terms.recoveryDelay, .new .fallback terms.recoveryDelay⟩
  ledger := .empty
  queue := .new terms.queueCapacity
  tasks := #[]

/-- How many payloads a task takes from the retry queue at once. -/
def batchSize : Nat := 550

/-- How long a task sleeps that found less than a full batch. -/
def restingTime : Ticks := 500

/-- How many tasks are to draw on the retry queue, if somebody wants so many. -/
def workerCount (wanted : Nat) : Nat := max wanted 1

/-! ## Parts that change together -/

/-- A task goes over to something else. -/
def setTask (g : Gateway α) (task : Nat) (t : Task α) : Gateway α :=
  { g with tasks := g.tasks.setIfInBounds task t }

/-- A monitor is in another state. If that publishes something about main, the attempts that wait
for main wake. -/
def setMonitor (g : Gateway α) (source : Source) (monitor : Monitor) : Gateway α :=
  let health := g.health.set source monitor
  if source = .main ∧ monitor.isUp ≠ g.health.main.isUp then
    { g with health, tasks := g.tasks.map Task.wake }
  else { g with health }

/-- A payload goes to the retry queue, or is dropped if that is full. -/
def enqueue (g : Gateway α) (payload : α) : Gateway α × List (Effect α) :=
  let queue := g.queue.enqueue payload
  ({ g with queue },
    [if g.queue.isFull then .dropped payload (RetryQueue.reportOf g.queue.dropped queue)
      else .queued payload])

/-- What becomes of a payload whose attempt failed. A caller who waits for the result gets it back
and sees to it himself. -/
def dispose (g : Gateway α) (role : Role) (payload : α) (fault : PaymentFault) :
    Gateway α × List (Effect α) :=
  if role = .single then (g, [.returned payload fault])
  else if fault.isRetryable then g.enqueue payload
  else (g, [.discarded role payload fault])

/-- A task is over. One that was handed in gives its slot back. -/
def finish (g : Gateway α) (task : Nat) (role : Role) (result : TaskResult) :
    Gateway α × List (Effect α) :=
  let g := g.setTask task ⟨role, .finished⟩
  (if role = .dispatch then { g with freeSlots := g.freeSlots + 1 } else g,
    [.finished task result])

/-- A task has come to the end of its batch. -/
def endBatch (g : Gateway α) (task : Nat) (role : Role) (taken : Nat) (result : TaskResult) :
    Gateway α × List (Effect α) :=
  match role with
  | .dispatch | .single => g.finish task role result
  | .sweep => g.finish task role (.swept taken)
  | .worker =>
    if taken < batchSize then (g.setTask task ⟨role, .resting⟩, [.rested task])
    else (g.setTask task ⟨role, .due⟩, [])

/-- An attempt is over, and the task goes on to the next payload of its batch. -/
def nextAttempt (g : Gateway α) (task : Nat) (role : Role) (rest : List α) (taken : Nat)
    (result : TaskResult) : Gateway α × List (Effect α) :=
  match rest with
  | payload :: rest => (g.setTask task ⟨role, .trying (.begin payload) rest taken⟩, [])
  | [] => g.endBatch task role taken result

/-- An attempt has failed. -/
def failAttempt (g : Gateway α) (task : Nat) (role : Role) (attempt : Attempt α) (rest : List α)
    (taken : Nat) (fault : PaymentFault) : Gateway α × List (Effect α) :=
  let (g, effects) := g.dispose role attempt.payload fault
  let (g, more) := g.nextAttempt task role rest taken (.failed fault)
  (g, effects ++ more)

/-- An attempt has succeeded: the payment is recorded under the instant that the request named. -/
def recordAttempt (g : Gateway α) (task : Nat) (role : Role) (payload : α) (payment : Payment)
    (source : Source) (requestedAt : Millis) (rest : List α) (taken : Nat) :
    Gateway α × List (Effect α) :=
  let g := { g with ledger := g.ledger.save source requestedAt payment.amount }
  let (g, more) := g.nextAttempt task role rest taken .recorded
  (g, .recorded task source payload payment requestedAt :: more)

end Gateway

end PaymentRelay
