import PaymentRelay.Proofs.Gateway.Verdict
import PaymentRelay.Proofs.Processor.Postings

/-!
# A gateway wired to its processors

The gateway and the clients of its two processors as one system. A call that the gateway begins is
one that the processor's client begins, and the gateway hears of its end when the client has come to
one; between the two the clients go on step by step, in any order and with whatever the processors
do. Which call of a client was begun for which task, and which calls have been counted as successful
since the ledger was emptied, is written down beside the system and changes nothing about it.
-/

namespace PaymentRelay

open Processor (Watched)

/-- A call of a processor, by its number among the calls of that processor's client. -/
abbrev Ticket := Source × Nat

/-- A gateway and the clients of its processors. -/
structure Wired where
  gateway : Gateway String
  clients : PerSource Watched
  /-- The call that was last begun for a task. -/
  tickets : Nat → Option Ticket
  /-- The calls that succeeded, the last first, since the ledger was emptied. -/
  taken : List Ticket

def Gateway.Event.isAnswer {α : Type} : Gateway.Event α → Bool
  | .answer .. => true
  | _ => false

theorem Gateway.Event.ne_of_isAnswer {α : Type} {event : Gateway.Event α}
    (h : event.isAnswer = false) (task : Nat) (outcome : ProcessorOutcome) :
    event ≠ .answer task outcome := by
  rintro rfl
  cases h

def Processor.Client.Event.isCall : Processor.Client.Event → Bool
  | .call .. => true
  | _ => false

namespace Wired

def new (terms : Gateway.Terms) (clients : PerSource (Processor.Terms × Nat)) : Wired :=
  ⟨.new terms, clients.map fun c ↦ .new c.1 c.2, fun _ ↦ none, []⟩

/-- The call with a ticket. -/
def call? (w : Wired) (ticket : Ticket) : Option Processor.Call :=
  (w.clients.get ticket.1).client.calls[ticket.2]?

/-- A step of the system. -/
inductive Event where
  /-- A step of the gateway, except that a call is over; a call that begins is in line from
  `now`. -/
  | gateway (event : Gateway.Event String) (now : Ticks)
  /-- A step of a client, except that a call begins. -/
  | client (source : Source) (event : Processor.Client.Event)
  /-- A task hears what its call has come to. -/
  | answer (task : Nat)
deriving DecidableEq, Repr

/-- What the call of a task has come to. -/
def answer? (w : Wired) (task : Nat) : Option (Ticket × ProcessorOutcome) :=
  if (w.gateway.waitsFor task).isNone then none
  else
    (w.tickets task).bind fun ticket ↦ (w.call? ticket).bind fun call ↦
      match call.stage with
      | .finished outcome => some (ticket, outcome)
      | _ => none

/-- A client takes a step. -/
def advance (w : Wired) (source : Source) (event : Processor.Client.Event) : Wired :=
  { w with clients := w.clients.set source ((w.clients.get source).step event) }

/-- A call begins if an effect of the gateway says so. -/
def begin (now : Ticks) (w : Wired) : Gateway.Effect String → Wired
  | .called task source _ payment requestedAt =>
    let ticket := (source, (w.clients.get source).client.calls.size)
    { w.advance source (.call payment requestedAt now) with
      tickets := fun t ↦ if t = task then some ticket else w.tickets t }
  | _ => w

/-- The gateway takes a step, and the calls that it begins begin. -/
def perform (w : Wired) (event : Gateway.Event String) (now : Ticks) : Wired :=
  let (gateway, effects) := w.gateway.step event
  effects.foldl (begin now) { w with gateway }

/-- The system after a step. A step that does not apply changes nothing. -/
def step (w : Wired) : Event → Wired
  | .gateway event now =>
    if event.isAnswer then w
    else { w.perform event now with taken := if event = .purge then [] else w.taken }
  | .client source event => if event.isCall then w else w.advance source event
  | .answer task =>
    match w.answer? task with
    | none => w
    | some (ticket, outcome) =>
      { w with
        gateway := (w.gateway.step (.answer task outcome)).1
        taken := if outcome = .taken then ticket :: w.taken else w.taken }

def run (w : Wired) (events : List Event) : Wired := events.foldl step w

/-! ## The part of the gateway -/

/-- The step of the gateway in a step of the system. -/
def gatewayEvent? (w : Wired) : Event → Option (Gateway.Event String)
  | .gateway event _ => if event.isAnswer then none else some event
  | .client .. => none
  | .answer task => (w.answer? task).map fun answer ↦ .answer task answer.2

/-- What an attempt comes to in a step of the system, if one is over in that step. -/
def verdict? (w : Wired) (event : Event) :
    Option (Except PaymentFault (Gateway.Call String)) :=
  (w.gatewayEvent? event).bind w.gateway.verdict?

theorem foldl_begin_gateway (now : Ticks) (effects : List (Gateway.Effect String)) (w : Wired) :
    (effects.foldl (begin now) w).gateway = w.gateway := by
  induction effects generalizing w with
  | nil => rfl
  | cons effect effects ih =>
    rw [List.foldl_cons, ih]
    cases effect <;> rfl

theorem step_gateway (w : Wired) (event : Event) :
    (w.step event).gateway = match w.gatewayEvent? event with
      | some event => (w.gateway.step event).1
      | none => w.gateway := by
  cases event with
  | gateway event now =>
    rw [step, gatewayEvent?]
    by_cases answers : event.isAnswer
    · rw [if_pos answers, if_pos answers]
    · rw [if_neg answers, if_neg answers]
      exact foldl_begin_gateway now _ _
  | client source event =>
    rw [step, gatewayEvent?]
    split <;> rfl
  | answer task =>
    rw [step, gatewayEvent?]
    cases w.answer? task <;> rfl

theorem step_ledger (w : Wired) (event : Event) :
    match w.verdict? event with
    | some (.ok call) => (w.step event).gateway.ledger
        = w.gateway.ledger.save call.source call.requestedAt call.payment.amount
    | some (.error _) => (w.step event).gateway.ledger = w.gateway.ledger
    | none => w.gatewayEvent? event ≠ some .purge →
        (w.step event).gateway.ledger = w.gateway.ledger := by
  rw [step_gateway, verdict?]
  cases own : w.gatewayEvent? event with
  | none => exact fun _ ↦ rfl
  | some event =>
    rw [Option.bind_some]
    dsimp only
    split
    · next call verdict => exact Gateway.ledger_of_ok verdict
    · next fault verdict => exact Gateway.ledger_of_error verdict
    · next none => exact fun kept ↦ Gateway.ledger_of_none (fun same ↦ kept (same ▸ rfl)) none

end Wired

end PaymentRelay
