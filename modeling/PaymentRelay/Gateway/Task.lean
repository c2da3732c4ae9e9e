import PaymentRelay.Payment.Payload
import PaymentRelay.Processor.Fault

/-!
# Tasks

A task carries payloads towards a processor, one at a time. Some payloads have just been handed in
and have a task each; others were taken from the retry queue, and a whole batch of them is in the
hands of one task. Either way one payload is being attempted and the rest of the batch waits.

A payload is anything that has a text; a text is one. Nothing but its text is ever looked at, so
payloads may be told apart by what else they have, without a difference to what is done.

An attempt is the way of one payload from its text to a call: it is read, a processor is chosen, and
the processor is called. The choice is made of single looks at the monitors, between which anything
may happen: at main, then at fallback if that is allowed, and if neither is up the attempt waits for
main and begins to choose anew once it has seen main up.
-/

namespace PaymentRelay

/-- What can be handed in: anything that has the text of a payload. -/
class Parcel (α : Type) where
  text : α → String

instance : Parcel String := ⟨id⟩

/-- How far an attempt has come. -/
inductive Stage where
  /-- The payload has not been read. -/
  | received
  /-- It is to look whether main is up. -/
  | choosing (payment : Payment)
  /-- Main was down; it is to look whether fallback is up. -/
  | second (payment : Payment)
  /-- It waits for main, and is to look at what is published. -/
  | waking (payment : Payment)
  /-- It waits for main, and sleeps until something new is published. -/
  | parked (payment : Payment)
  /-- A processor has been called, with a request that names this instant. -/
  | calling (payment : Payment) (source : Source) (requestedAt : Millis)
deriving DecidableEq, Repr

def Stage.wake : Stage → Stage
  | .parked payment => .waking payment
  | stage => stage

/-- A payload on its way. -/
structure Attempt (α : Type) where
  payload : α
  stage : Stage
deriving DecidableEq, Repr

def Attempt.begin {α : Type} (payload : α) : Attempt α := ⟨payload, .received⟩

/-- What a task is for. -/
inductive Role where
  /-- It carries a payload that was handed in, and occupies a slot. -/
  | dispatch
  /-- It carries a payload for a caller who wants to know what comes of it. -/
  | single
  /-- It carries one batch from the retry queue. -/
  | sweep
  /-- It carries batch after batch from the retry queue. -/
  | worker
deriving DecidableEq, Repr

/-- The task draws on the retry queue. -/
def Role.isSweeping : Role → Bool
  | .sweep | .worker => true
  | .dispatch | .single => false

/-- What a task is doing. -/
inductive Activity (α : Type) where
  /-- It is to take a batch from the retry queue. -/
  | due
  /-- It attempts a payload; the rest of its batch waits, and so many payloads were taken. -/
  | trying (attempt : Attempt α) (rest : List α) (taken : Nat)
  /-- It sleeps for a while. -/
  | resting
  /-- It is over. -/
  | finished
deriving DecidableEq, Repr

/-- A task. -/
structure Task (α : Type) where
  role : Role
  activity : Activity α
deriving DecidableEq, Repr

namespace Task

variable {α : Type}

def carrying (role : Role) (payload : α) : Task α := ⟨role, .trying (.begin payload) [] 0⟩

def sweeping (role : Role) : Task α := ⟨role, .due⟩

/-- The attempt under way. -/
def attempt? (t : Task α) : Option (Attempt α) :=
  match t.activity with
  | .trying attempt _ _ => some attempt
  | _ => none

/-- The payloads in the hands of a task. -/
def payloads (t : Task α) : List α :=
  match t.activity with
  | .trying attempt rest _ => attempt.payload :: rest
  | _ => []

/-- The task with its attempt at another stage. -/
def withStage (t : Task α) (stage : Stage) : Task α :=
  match t.activity with
  | .trying attempt rest taken => { t with activity := .trying { attempt with stage } rest taken }
  | _ => t

/-- Something new is published. -/
def wake (t : Task α) : Task α :=
  match t.attempt? with
  | some attempt => t.withStage attempt.stage.wake
  | none => t

/-- The task can go on by itself. -/
def isRunnable (t : Task α) : Bool :=
  match t.activity with
  | .due => true
  | .trying ⟨_, .parked _⟩ _ _ => false
  | .trying ⟨_, .calling ..⟩ _ _ => false
  | .trying .. => true
  | .resting => false
  | .finished => false

end Task

/-- What a task came to. -/
inductive TaskResult where
  /-- Its payment stands in the ledger. -/
  | recorded
  /-- Its payload did not become a recorded payment. -/
  | failed (fault : PaymentFault)
  /-- It took so many payloads from the retry queue. -/
  | swept (taken : Nat)
deriving DecidableEq, Repr

end PaymentRelay
