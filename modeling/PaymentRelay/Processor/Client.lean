import PaymentRelay.Health.Monitor
import PaymentRelay.Http.Exchange
import PaymentRelay.Http.Request
import PaymentRelay.Processor.Fault
import PaymentRelay.Processor.Pool

/-!
# Calling a processor

A call sends one payment to a processor and reads the answer. It leases a connection for that:
calls wait in line for one to become idle, and a call that has waited too long leaves the line and
dials a connection of its own. A connection goes back to the pool only when a response has been read
to its end. A lease that ends in any other way closes the connection, and another is dialed in its
place by nobody in particular.

All of this is one state and a set of atomic steps, so that calls, dials and what arrives from the
processor may interleave in any order. A step that does not apply changes nothing.
-/

namespace PaymentRelay.Processor

/-- A connection, seen from this side. -/
structure Link where
  /-- What has arrived and has not been read. -/
  inbox : Bytes
  /-- What a read is told once everything that arrived has been read, if nothing more will: that the
  stream has ended, or that the connection was broken off. -/
  ending : Option Transport.Fault
  /-- This side has not closed the connection. -/
  isOpen : Bool
  /-- The requests written, the last first. -/
  sent : List Bytes
deriving DecidableEq, Repr

def Link.new : Link := ⟨[], none, true, []⟩

/-- What a call is doing. -/
inductive Stage where
  /-- It is in line for a connection, until a deadline. -/
  | waiting (deadline : Ticks)
  /-- It dials a connection of its own. -/
  | dialing
  /-- It holds a connection and has not written its request. -/
  | leased (link : Nat)
  /-- It reads the response. -/
  | reading (link : Nat) (stage : Exchange.Stage)
  /-- It is over. -/
  | finished (outcome : ProcessorOutcome)
  /-- It was given up by its caller. -/
  | abandoned
deriving DecidableEq, Repr

/-- The connection that a call holds. -/
def Stage.link? : Stage → Option Nat
  | .leased link => some link
  | .reading link _ => some link
  | _ => none

/-- A call. -/
structure Call where
  payment : Payment
  /-- The instant that the request names. -/
  requestedAt : Millis
  stage : Stage
deriving DecidableEq, Repr

/-- Where and how a processor is called. -/
structure Terms where
  /-- The host that requests name. -/
  host : String
  /-- How long a call waits in line. -/
  patience : Ticks
deriving DecidableEq, Repr

/-- How responses are read: heads of at most 1024 octets; bodies are thrown away. -/
def responseTerms : Exchange.Terms := ⟨1024, .discard 512⟩

def Terms.request (terms : Terms) (call : Call) : Bytes :=
  (Request.post "/payments" terms.host (call.payment.body call.requestedAt)).flatten

/-- What a response means for the payment. -/
def outcomeOf (answer : Exchange.Answer) : ProcessorOutcome :=
  if answer.status = 200 then .taken else .refused (.status answer.status)

/-- The calls to one processor and its connections. -/
structure Client where
  terms : Terms
  pool : Pool
  /-- All connections ever made, by number. -/
  links : Array Link
  /-- All calls ever made, by number. -/
  calls : Array Call
  /-- The calls in line for a connection. -/
  line : List Nat
  /-- How many connections are being dialed in place of broken ones. -/
  replacements : Nat
deriving DecidableEq, Repr

namespace Client

def new (terms : Terms) (size : Nat) : Client := ⟨terms, .new size, #[], #[], [], 0⟩

/-- A step. -/
inductive Event where
  /-- A call begins. -/
  | call (payment : Payment) (requestedAt : Millis) (now : Ticks)
  /-- A connection is made before anybody needs it. -/
  | warmed
  /-- The first call in line leases the connection that has been idle longest. -/
  | lease
  /-- A call has waited too long. -/
  | expire (call : Nat)
  /-- A call's own dial is over. -/
  | dialed (call : Nat) (failure : Option Transport.Fault)
  /-- A dial in place of a broken connection is over. -/
  | replaced (made : Bool)
  /-- A call writes its request, which may fail. -/
  | write (call : Nat) (failure : Option Transport.Fault)
  /-- Octets arrive from the processor. -/
  | deliver (link : Nat) (octets : Bytes)
  /-- The processor hangs up; reads are told of `ending`. -/
  | hangUp (link : Nat) (ending : Transport.Fault)
  /-- A call reads what has arrived. -/
  | read (call : Nat)
  /-- A call is given up by its caller. -/
  | abandon (call : Nat)
deriving DecidableEq, Repr

/-- A call goes over to another stage. -/
def setStage (c : Client) (call : Nat) (stage : Stage) : Client :=
  { c with calls := c.calls.modify call ({ · with stage }) }

/-- A connection is closed from this side. -/
def close (c : Client) (link : Nat) : Client :=
  { c with links := c.links.modify link ({ · with isOpen := false }) }

/-- A connection goes to the pool, or is closed if the pool is full. -/
def giveBack (c : Client) (link : Nat) : Client :=
  if c.pool.hasRoom then { c with pool := c.pool.put link } else c.close link

/-- A connection has been made; its number is the next. -/
def addLink (c : Client) : Client := { c with links := c.links.push .new }

/-- A call ends without its response: its connection is closed and another one dialed. -/
def fail (c : Client) (call link : Nat) (stage : Stage) : Client :=
  { (c.close link).setStage call stage with replacements := c.replacements + 1 }

/-- A call has come to some point of its response. -/
def proceed (c : Client) (call link : Nat) : Exchange.State → Client
  | .reading stage => c.setStage call (.reading link stage)
  | .complete response => (c.giveBack link).setStage call (.finished (outcomeOf response.answer))
  | .failed fault => c.fail call link (.finished (.refused (.ofTransport fault)))

/-- What a call reads that waits for more: as much as it asks for of what has arrived. If nothing
has, it reads how the stream ended, or waits on. -/
def nextRead (link : Link) (stage : Exchange.Stage) : Option (Except Transport.Fault Bytes) :=
  let octets := link.inbox.take (stage.room responseTerms)
  if octets.isEmpty then link.ending.map .error else some (.ok octets)

def readStep (c : Client) (call : Nat) : Client :=
  match c.calls[call]? with
  | some ⟨_, _, .reading i stage⟩ =>
    match c.links[i]? with
    | some link =>
      match nextRead link stage with
      | none => c
      | some (.error fault) => c.proceed call i (.failed fault)
      | some (.ok octets) =>
        let links := c.links.modify i fun l ↦ { l with inbox := l.inbox.drop octets.length }
        proceed { c with links } call i (Exchange.feed responseTerms stage octets)
    | none => c
  | _ => c

def writeStep (c : Client) (call : Nat) (failure : Option Transport.Fault) : Client :=
  match c.calls[call]? with
  | some ⟨payment, at_, .leased i⟩ =>
    match failure with
    | some fault => c.fail call i (.finished (.refused (.ofTransport fault)))
    | none =>
      let request := c.terms.request ⟨payment, at_, .leased i⟩
      let links := c.links.modify i fun l ↦ { l with sent := request :: l.sent }
      proceed { c with links } call i (Exchange.start responseTerms)
  | _ => c

/-- The first call in line leases the connection that has been idle longest. -/
def leaseStep (c : Client) : Client :=
  match c.line, c.pool.idle with
  | call :: line, link :: idle =>
    { c with line, pool := { c.pool with idle } }.setStage call (.leased link)
  | _, _ => c

/-- A call has waited too long. -/
def expireStep (c : Client) (call : Nat) : Client :=
  match c.calls[call]? with
  | some ⟨_, _, .waiting _⟩ => { c with line := c.line.erase call }.setStage call .dialing
  | _ => c

def dialStep (c : Client) (call : Nat) (failure : Option Transport.Fault) : Client :=
  match c.calls[call]? with
  | some ⟨_, _, .dialing⟩ =>
    match failure with
    | none => c.addLink.setStage call (.leased c.links.size)
    -- whatever the dial comes to is the connection's fault and not an answer's
    | some fault => c.setStage call (.finished (.refused (.transport fault)))
  | _ => c

/-- A dial in place of a broken connection is over. -/
def replaceStep (c : Client) (made : Bool) : Client :=
  if c.replacements = 0 then c
  else
    let c := { c with replacements := c.replacements - 1 }
    if made then c.addLink.giveBack c.links.size else c

/-- A call is given up by its caller. -/
def abandonStep (c : Client) (call : Nat) : Client :=
  match c.calls[call]? with
  | some ⟨_, _, .waiting _⟩ => { c with line := c.line.erase call }.setStage call .abandoned
  | some ⟨_, _, .dialing⟩ => c.setStage call .abandoned
  | some ⟨_, _, .leased i⟩ => c.fail call i .abandoned
  | some ⟨_, _, .reading i _⟩ => c.fail call i .abandoned
  | _ => c

def step (c : Client) : Event → Client
  | .call payment requestedAt now =>
    { c with
      calls := c.calls.push ⟨payment, requestedAt, .waiting (now + c.terms.patience)⟩
      line := c.line ++ [c.calls.size] }
  | .warmed => c.addLink.giveBack c.links.size
  | .lease => c.leaseStep
  | .expire call => c.expireStep call
  | .dialed call failure => c.dialStep call failure
  | .replaced made => c.replaceStep made
  | .write call failure => c.writeStep call failure
  | .deliver link octets =>
    { c with links := c.links.modify link fun l ↦
        if l.ending.isSome then l else { l with inbox := l.inbox ++ octets } }
  | .hangUp link ending =>
    { c with links := c.links.modify link fun l ↦
        if l.ending.isSome then l else { l with ending := some ending } }
  | .read call => c.readStep call
  | .abandon call => c.abandonStep call

def run (c : Client) (events : List Event) : Client := events.foldl step c

end Client

end PaymentRelay.Processor
