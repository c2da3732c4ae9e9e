import PaymentRelay.Gateway.Basic

/-!
# Steps of the gateway

Everything that can happen to a gateway is one of a few atomic steps, and steps may come in any
order: payloads are handed in, tasks have their turns, calls are answered, monitors go up and down.
A task's turn is one look at the world and no more. A step that does not apply changes nothing.
-/

namespace PaymentRelay.Gateway

variable {α : Type}

/-- A step. -/
inductive Event (α : Type) where
  /-- A payload is handed in. -/
  | ingest (payload : α)
  /-- Somebody has a payload processed and waits for the result. -/
  | process (payload : α)
  /-- Somebody has a batch taken from the retry queue. -/
  | sweep
  /-- A task begins that draws on the retry queue for good. -/
  | startWorker
  /-- A task has its turn; if it calls a processor, the request names this instant. -/
  | run (task : Nat) (requestedAt : Millis)
  /-- The call of a task is over. -/
  | answer (task : Nat) (outcome : ProcessorOutcome)
  /-- A task has slept long enough. -/
  | wakeWorker (task : Nat)
  /-- A processor is found to be down. -/
  | markDown (source : Source) (now : Ticks)
  /-- A processor is found to be up. -/
  | markUp (source : Source)
  /-- The timer of a monitor comes back that was set for a deadline. -/
  | expire (source : Source) (deadline : Ticks)
  /-- The ledger is emptied. -/
  | purge
deriving DecidableEq, Repr

/-- What an attempt finds when it has its turn: the stage that it comes to, or that its payload says
no payment. -/
def look [Parcel α] (g : Gateway α) (attempt : Attempt α) (requestedAt : Millis) :
    Except Payload.Fault Stage :=
  match attempt.stage with
  | .received => (Payload.read (Parcel.text attempt.payload)).map .choosing
  | .choosing payment =>
    .ok (if g.health.main.isUp then .calling payment .main requestedAt
      else if g.failover then .second payment
      else .waking payment)
  | .second payment =>
    .ok (if g.health.fallback.isUp then .calling payment .fallback requestedAt
      else .waking payment)
  | .waking payment =>
    .ok (if g.health.main.published then .choosing payment else .parked payment)
  | .parked payment => .ok (.parked payment)
  | .calling payment source requestedAt => .ok (.calling payment source requestedAt)

/-- The call that begins when a payload's attempt goes from one stage to another. -/
def callOf (task : Nat) (payload : α) (before after : Stage) : List (Effect α) :=
  match before, after with
  | .calling .., _ => []
  | _, .calling payment source requestedAt => [.called task source payload payment requestedAt]
  | _, _ => []

/-- A task takes a batch from the retry queue. -/
def takeBatch (g : Gateway α) (task : Nat) (role : Role) : Gateway α × List (Effect α) :=
  let (batch, queue) := g.queue.drain batchSize
  { g with queue }.nextAttempt task role batch.toList batch.size (.swept batch.size)

/-- A task has its turn. -/
def runTask [Parcel α] (g : Gateway α) (task : Nat) (requestedAt : Millis) :
    Gateway α × List (Effect α) :=
  match g.tasks[task]? with
  | some ⟨role, .trying attempt rest taken⟩ =>
    match g.look attempt requestedAt with
    | .ok stage =>
      (g.setTask task ⟨role, .trying { attempt with stage } rest taken⟩,
        callOf task attempt.payload attempt.stage stage)
    | .error fault => g.failAttempt task role attempt rest taken (.invalidPayload fault)
  | some ⟨role, .due⟩ => g.takeBatch task role
  | _ => (g, [])

/-- The call of a task is over. -/
def answerTask (g : Gateway α) (task : Nat) (outcome : ProcessorOutcome) :
    Gateway α × List (Effect α) :=
  match g.tasks[task]? with
  | some ⟨role, .trying ⟨payload, .calling payment source requestedAt⟩ rest taken⟩ =>
    match outcome with
    | .taken => g.recordAttempt task role payload payment source requestedAt rest taken
    | .refused fault =>
      g.failAttempt task role ⟨payload, .calling payment source requestedAt⟩ rest taken
        (.dispatch source fault)
  | _ => (g, [])

def addTask (g : Gateway α) (t : Task α) : Gateway α := { g with tasks := g.tasks.push t }

/-- A payload is handed in: it gets a task if a slot is free, and waits in the retry queue if none
is. -/
def ingest (g : Gateway α) (payload : α) : Gateway α × List (Effect α) :=
  if g.freeSlots = 0 then g.enqueue payload
  else ({ g with freeSlots := g.freeSlots - 1 }.addTask (.carrying .dispatch payload), [])

/-- The gateway after a step, and what the step did. -/
def step [Parcel α] (g : Gateway α) : Event α → Gateway α × List (Effect α)
  | .ingest payload => g.ingest payload
  | .process payload => (g.addTask (.carrying .single payload), [])
  | .sweep => (g.addTask (.sweeping .sweep), [])
  | .startWorker => (g.addTask (.sweeping .worker), [])
  | .run task requestedAt => g.runTask task requestedAt
  | .answer task outcome => g.answerTask task outcome
  | .wakeWorker task =>
    match g.tasks[task]? with
    | some ⟨role, .resting⟩ => (g.setTask task ⟨role, .due⟩, [])
    | _ => (g, [])
  | .markDown source now => (g.setMonitor source ((g.health.get source).markDown now), [])
  | .markUp source => (g.setMonitor source (g.health.get source).markUp, [])
  | .expire source deadline =>
    (g.setMonitor source ((g.health.get source).expire deadline), [])
  | .purge => ({ g with ledger := .empty }, [])

/-- The gateway after several steps, and what they did. -/
def run [Parcel α] (g : Gateway α) : List (Event α) → Gateway α × List (Effect α)
  | [] => (g, [])
  | event :: events =>
    let (g, effects) := g.step event
    let (g, more) := g.run events
    (g, effects ++ more)

end PaymentRelay.Gateway
