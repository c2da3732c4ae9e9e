import PaymentRelay.Processor.Client
import PaymentRelay.Rehearsal.Reply

/-!
# Rehearsing a client

Calls to a processor that follows a script, on a clock that moves only when told to. The processor
numbers the connections that are made to it, and for each it has a list of replies to the requests
that it reads there; past the list it accepts every payment.

## Turns

Whoever can go on has a turn, first come, first served, and goes on until it must wait. What one
side does at a connection reaches the other at once, but is noticed late: only when nobody has a
turn does everybody look up, and then all that has arrived is noticed in the order in which it came.
Until then nobody begins to read, a connection that was dialed is not known to be made, and nobody
is let in.

The processor sends a piece and lets one round pass before it does anything else, so that a call
that reads is given each piece by itself. Its last piece is read before it hangs up, but whoever
leases the connection next comes too late.
-/

namespace PaymentRelay.ClientRehearsal

open Rehearsal (Reply)
open Processor (Client)

/-- Who can have a turn. -/
inductive Turn where
  /-- A call. -/
  | call (call : Nat)
  /-- A call whose own dial is over. -/
  | dialed (call : Nat)
  /-- Somebody who is to dial in place of a broken connection. -/
  | redial
  /-- Somebody whose dial in place of a broken connection is over. -/
  | redialed
  /-- The processor, which lets connections in. -/
  | door
  /-- The processor at a connection. -/
  | desk (link : Nat)
deriving DecidableEq, Repr

/-- Where something can be noticed. -/
inductive Place where
  /-- Where the processor lets connections in. -/
  | door
  /-- The client's end of a connection. -/
  | near (link : Nat)
  /-- The processor's end of a connection. -/
  | far (link : Nat)
deriving DecidableEq, Repr

/-- What the processor does with a connection. -/
inductive Stand where
  /-- It has not let it in. -/
  | outside
  /-- It reads. -/
  | listening
  /-- It is to reply. -/
  | replying (reply : Reply)
  /-- It replies. -/
  | sending (pieces : List Bytes) (hangsUp : Bool)
  /-- It has left the connection. -/
  | gone
deriving DecidableEq, Repr

/-- A connection that somebody has dialed. -/
structure Wire where
  /-- Who waits for it to be made. -/
  dialer : Option Turn
  /-- The client has noticed something that it has not read. -/
  nearReady : Bool
  /-- The processor has noticed something that it has not read. -/
  farReady : Bool
  stand : Stand
  /-- The replies to come. -/
  script : List Reply
  /-- How many requests the processor has read. -/
  taken : Nat
  /-- How many of them it has dealt with. -/
  served : Nat
deriving DecidableEq, Repr

/-- The client, the processor, the clock, and who can go on. -/
structure State where
  client : Client
  /-- Where the processor is, it can be reached. -/
  reachable : Bool
  /-- The replies on connections that are still to be dialed. -/
  scripts : List (List Reply)
  /-- The connections, in the order in which they were dialed. -/
  wires : Array Wire
  now : Ticks
  /-- The timers that are set, in the order in which they were set. -/
  timers : List (Ticks × Turn)
  turns : List Turn
  /-- Where something has come that is not noticed yet. -/
  arrivals : List Place
  /-- Who lets a round pass. -/
  resting : List Turn
  /-- The requests that the processor has read, with their connections, the last first. -/
  heard : List (Nat × Bytes)
  /-- How many connections the client has closed that the processor knows of. -/
  closed : Nat

/-! ## Who goes on -/

def State.add (s : State) (turn : Turn) : State := { s with turns := s.turns ++ [turn] }

def State.addFirst (s : State) (turn : Turn) : State := { s with turns := turn :: s.turns }

/-- Somebody who waits has a turn after all others, and one is enough. -/
def State.wake (s : State) (turn : Turn) : State :=
  if s.turns.contains turn then s else s.add turn

def State.wakeFirst (s : State) : State :=
  match s.client.line with
  | call :: _ => s.wake (.call call)
  | [] => s

def State.setTimer (s : State) (deadline : Ticks) (turn : Turn) : State :=
  { s with timers := s.timers ++ [(deadline, turn)] }

def State.arrive (s : State) (place : Place) : State :=
  if s.arrivals.contains place then s else { s with arrivals := s.arrivals ++ [place] }

/-- The processor is at a connection: it has let it in and has not left it. -/
def Stand.isThere : Stand → Bool
  | .outside | .gone => false
  | .listening | .replying _ | .sending .. => true

/-- Something has come to the processor's end of a connection, if the processor is there. -/
def State.arriveFar (s : State) (link : Nat) : State :=
  if (s.wires[link]?).any (·.stand.isThere) then s.arrive (.far link) else s

def State.setWire (s : State) (link : Nat) (wire : Wire) : State :=
  { s with wires := s.wires.setIfInBounds link wire }

/-- A step of the client, and what it brings about: the processor hears of connections that are
closed, a connection that comes back wakes the line, and a broken one is to be replaced. -/
def State.step (s : State) (event : Client.Event) : State :=
  let before := s.client
  let after := before.step event
  let closed := (List.range after.links.size).filter fun i ↦
    after.links[i]?.any (!·.isOpen) && before.links[i]?.all (·.isOpen)
  let s := closed.foldl State.arriveFar { s with client := after }
  let s := if before.pool.idle.length < after.pool.idle.length then s.wakeFirst else s
  if before.replacements < after.replacements then s.add .redial else s

/-! ## Dials -/

def Wire.new (dialer : Option Turn) (script : List Reply) : Wire :=
  ⟨dialer, false, false, .outside, script, 0, 0⟩

def State.addWire (s : State) (dialer : Option Turn) : State :=
  let link := s.wires.size
  let wire := Wire.new dialer (s.scripts.headD [])
  ({ s with wires := s.wires.push wire, scripts := s.scripts.tail }.arrive .door).arrive
    (.near link)

def State.dial (s : State) (dialer : Turn) : State :=
  if s.reachable then s.addWire (some dialer) else s.addFirst dialer

def State.dialFailure (s : State) : Option Transport.Fault :=
  if s.reachable then none else some .notFound

/-! ## Calls -/

/-- A call in line leases a connection if it is in front and one is idle, and leaves the line if it
has waited too long. Whoever is in front after it has a turn. -/
def State.stepLine (s : State) (call : Nat) (deadline : Ticks) : State :=
  let first := s.client.line.head? == some call
  if first && !s.client.pool.idle.isEmpty then
    (s.step .lease).wakeFirst.addFirst (.call call)
  else if deadline ≤ s.now then
    let s := s.step (.expire call)
    (if first then s.wakeFirst else s).dial (.dialed call)
  else s

def State.stepWrite (s : State) (call link : Nat) : State :=
  if (s.client.links[link]?).any (·.ending.isSome) then
    s.step (.write call (some .brokenPipe))
  else ((s.step (.write call none)).arriveFar link).addFirst (.call call)

/-- A call reads if it has noticed something to read. A read that could have taken more has read
everything, and what comes later must be noticed anew; but an end stays noticed. -/
def State.stepRead (s : State) (call i : Nat) (stage : Exchange.Stage) : State :=
  match s.wires[i]?, s.client.links[i]? with
  | some wire, some link =>
    if wire.nearReady then
      let drained := link.inbox.length < stage.room Processor.responseTerms && link.ending.isNone
      let s := s.setWire i { wire with nearReady := !drained }
      match Client.nextRead link stage with
      | some _ => (s.step (.read call)).addFirst (.call call)
      | none => s
    else s
  | _, _ => s

def State.stepCall (s : State) (call : Nat) : State :=
  match s.client.calls[call]? with
  | some ⟨_, _, .waiting deadline⟩ => s.stepLine call deadline
  | some ⟨_, _, .leased link⟩ => s.stepWrite call link
  | some ⟨_, _, .reading link stage⟩ => s.stepRead call link stage
  | _ => s

/-! ## The processor -/

def State.stepDoor (s : State) : State :=
  (List.range s.wires.size).foldl (fun s i ↦
    match s.wires[i]? with
    | some wire =>
      if wire.stand = .outside then
        ((s.setWire i { wire with stand := .listening }).add (.desk i)).arrive (.far i)
      else s
    | none => s) s

def State.serve (s : State) (i : Nat) (wire : Wire) (request : Bytes) : State :=
  let reply := wire.script.headD .accepted
  let wire := { wire with
    stand := .replying reply
    script := wire.script.tail
    served := wire.served + 1 }
  let s := { s.setWire i wire with heard := (i, request) :: s.heard }
  if reply.delay = 0 then s.addFirst (.desk i) else s.setTimer (s.now + reply.delay) (.desk i)

/-- The processor has dealt with all requests that it has read, and reads on if it has noticed
something to read. -/
def State.listen (s : State) (i : Nat) (wire : Wire) (link : Processor.Link) : State :=
  if wire.farReady then
    if wire.taken < link.sent.length then
      (s.setWire i { wire with taken := link.sent.length, farReady := !link.isOpen }).addFirst
        (.desk i)
    else if link.isOpen then s.setWire i { wire with farReady := false }
    else { s.setWire i { wire with stand := .gone } with closed := s.closed + 1 }
  else s

/-- The processor goes on with a connection. If it hangs up and has left a request unread, the
connection is broken off. -/
def State.stepDesk (s : State) (i : Nat) : State :=
  match s.wires[i]?, s.client.links[i]? with
  | some wire, some link =>
    match wire.stand with
    | .outside | .gone => s
    | .listening =>
      match (link.sent.reverse.take wire.taken)[wire.served]? with
      | some request => s.serve i wire request
      | none => s.listen i wire link
    | .replying reply =>
      (s.setWire i { wire with stand := .sending reply.pieces reply.hangsUp }).addFirst (.desk i)
    | .sending (piece :: pieces) hangsUp =>
      let s := (s.setWire i { wire with stand := .sending pieces hangsUp }).step (.deliver i piece)
      let s := if piece.isEmpty then s else s.arrive (.near i)
      { s with resting := s.resting ++ [.desk i] }
    | .sending [] true =>
      let ending := if wire.taken < link.sent.length then .connectionReset else .endOfStream
      ((s.setWire i { wire with stand := .gone }).step (.hangUp i ending)).arrive (.near i)
    | .sending [] false => (s.setWire i { wire with stand := .listening }).addFirst (.desk i)
  | _, _ => s

/-! ## Rounds -/

def State.take (s : State) : Turn → State
  | .call call => s.stepCall call
  | .dialed call => (s.step (.dialed call s.dialFailure)).addFirst (.call call)
  | .redial => s.dial .redialed
  | .redialed => s.step (.replaced s.reachable)
  | .door => s.stepDoor
  | .desk link => s.stepDesk link

def State.reader? (s : State) (link : Nat) : Option Nat :=
  s.client.calls.findIdx? (·.stage.link? = some link)

/-- What has come to the client's end of a connection is noticed: that the connection is made, or
that there is something to read. -/
def State.noticeNear (s : State) (i : Nat) : State :=
  match s.wires[i]? with
  | some wire =>
    let s := wire.dialer.elim s s.add
    if (s.client.links[i]?).any fun link ↦ !link.inbox.isEmpty || link.ending.isSome then
      let s := s.setWire i { wire with dialer := none, nearReady := true }
      (s.reader? i).elim s fun call ↦ s.wake (.call call)
    else s.setWire i { wire with dialer := none }
  | none => s

/-- What has come to the processor's end of a connection is noticed. -/
def State.noticeFar (s : State) (i : Nat) : State :=
  match s.wires[i]?, s.client.links[i]? with
  | some wire, some link =>
    if wire.taken < link.sent.length || !link.isOpen then
      let s := s.setWire i { wire with farReady := true }
      if wire.stand = .listening then s.wake (.desk i) else s
    else s
  | _, _ => s

def State.noticeAt (s : State) : Place → State
  | .door => s.wake .door
  | .near link => s.noticeNear link
  | .far link => s.noticeFar link

/-- Everybody looks up, and then goes on who has let a round pass. -/
def State.notice (s : State) : State :=
  let noticed := s.arrivals.foldl State.noticeAt { s with arrivals := [], resting := [] }
  { noticed with turns := noticed.turns ++ s.resting }

/-- Lets everything happen that can happen by itself, in at most so many turns and rounds. -/
def State.settle (s : State) : Nat → State
  | 0 => s
  | n + 1 =>
    match s.turns with
    | turn :: turns => ({ s with turns }.take turn).settle n
    | [] => if s.arrivals.isEmpty && s.resting.isEmpty then s else s.notice.settle n

/-- How many turns and rounds there can be at most before nothing can happen: every call and
connection has a few of its own, every piece that may be sent brings a few about, and every read
takes at least one octet. -/
def State.bound (s : State) : Nat :=
  let lengths (pieces : List Bytes) : Nat := pieces.foldl (· + ·.length + 8) 8
  let replies (script : List Reply) : Nat := script.foldl (· + lengths ·.pieces) 8
  let begun : Stand → Nat
    | .replying reply => lengths reply.pieces
    | .sending pieces _ => lengths pieces
    | _ => 8
  let wires := s.wires.foldl (fun n wire ↦ n + replies wire.script + begun wire.stand) 0
  let links := s.client.links.foldl (fun n link ↦ n + link.inbox.length + link.sent.length + 8) 0
  let others := s.scripts.foldl (· + replies ·) 0
  16 * (wires + links + others + 64 * s.client.calls.size + s.client.replacements +
    s.turns.length + s.arrivals.length + s.resting.length + 8)

def State.rest (s : State) : State := s.settle s.bound

/-! ## The clock -/

def State.ring (s : State) : State :=
  let (due, later) := s.timers.partition (·.1 ≤ s.now)
  due.foldl (fun s timer ↦ s.wake timer.2) { s with timers := later }

/-- Moves the clock to `target`, with a stop wherever a timer goes off, of which there are at most
so many. -/
def State.moveTo (s : State) (target : Ticks) : Nat → State
  | 0 => { s with now := target }
  | n + 1 =>
    match ((s.timers.map (·.1)).filter (· ≤ target)).min? with
    | some deadline => ({ s with now := max s.now deadline }.ring.rest).moveTo target n
    | none => { s with now := target }

def State.pass (s : State) (span : Ticks) : State :=
  s.rest.moveTo (s.now + span) (s.timers.length + s.bound)

/-! ## The rehearsal -/

/-- How a rehearsal begins. -/
structure Setting where
  terms : Processor.Terms
  /-- How many connections the pool keeps. -/
  size : Nat
  /-- Whether connections are made before the first call. -/
  warm : Bool
  reachable : Bool
  scripts : List (List Reply)
deriving Repr

/-- A payment, and the instant that its request names. -/
structure Order where
  payment : Payment
  at_ : Millis
deriving DecidableEq, Repr

/-- What has become of some calls that were begun together. -/
structure Answer where
  /-- What each call came to; nothing if it is not over. -/
  outcomes : List (Option ProcessorOutcome)
  /-- The requests that the processor has read meanwhile, with their connections. -/
  heard : List (Nat × Bytes)
  /-- How many connections it has let in so far. -/
  accepted : Nat
  /-- How many of them the client has closed so far. -/
  closed : Nat

def State.warmUp (s : State) : State := (s.addWire none).step .warmed

def start (setting : Setting) : State :=
  let s : State :=
    { client := .new setting.terms setting.size
      reachable := setting.reachable
      scripts := setting.scripts
      wires := #[]
      now := 0
      timers := []
      turns := []
      arrivals := []
      resting := []
      heard := []
      closed := 0 }
  if setting.warm && setting.reachable then
    ((List.range setting.size).foldl (fun s _ ↦ s.warmUp) s).rest
  else s

/-- How many connections were made before the first call and kept. -/
def State.warmed (s : State) : Nat := s.client.pool.idle.length

def State.outcome? (s : State) (call : Nat) : Option ProcessorOutcome :=
  match s.client.calls[call]? with
  | some ⟨_, _, .finished outcome⟩ => some outcome
  | _ => none

def State.accepted (s : State) : Nat := s.wires.countP (·.stand ≠ .outside)

/-- A call begins, and everything happens that can happen by itself. -/
def State.call (s : State) (order : Order) : State :=
  let call := s.client.calls.size
  let s := s.step (.call order.payment order.at_ s.now)
  ((s.setTimer (s.now + s.client.terms.patience) (.call call)).add (.call call)).rest

def State.perform (s : State) (orders : List Order) (span : Ticks) : State × Answer :=
  let first := s.client.calls.size
  let t := (orders.foldl State.call s).pass span
  ({ t with heard := [] },
    ⟨(List.range' first orders.length).map t.outcome?, t.heard.reverse, t.accepted, t.closed⟩)

def run (s : State) (span : Ticks) : List (List Order) → List Answer
  | [] => []
  | orders :: entries =>
    let (s, answer) := s.perform orders span
    answer :: run s span entries

end PaymentRelay.ClientRehearsal
