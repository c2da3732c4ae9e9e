import PaymentRelay.Edge.Fault
import PaymentRelay.Http.Route

/-!
# A client's connection

A session reads requests from a client's connection one after the other, answers each, and stops
when the client has gone, when a response said that the connection would be closed, or when a
request failed. It is a machine without clock, ledger or network: it is given what one read
delivered, and what a summary came to that it asked for, and it says what is to be done. Each
request's effects come before those of the next.

The buffer holds the octets that were read and have not been consumed. A request's head must end
within the buffer; of a declared body, what is in the buffer is taken first and the rest is read in
pieces past the buffer, so that the next request begins exactly where the body ends.
-/

namespace PaymentRelay.Edge

/-- A response. -/
structure Reply where
  status : Status
  /-- Whether another request may follow. -/
  keepAlive : Bool
  /-- The JSON text that it carries. -/
  json : Option Bytes
deriving DecidableEq, Repr

def Reply.write (reply : Reply) : Bytes :=
  Response.write reply.status reply.keepAlive (reply.json.map fun _ ↦ "application/json")
    (reply.json.getD [])

/-- The bounds that a session keeps. -/
structure Terms where
  /-- The size of the buffer, in which a head must end. -/
  headCapacity : Nat
  /-- How much of a body is read at once. -/
  bodyChunk : Nat
deriving DecidableEq, Repr

/-- The longest body that is taken. -/
def maxBody : Nat := 1048576

/-- What a session is doing. -/
inductive Session where
  /-- It waits for the end of a head. -/
  | head (buffer : Bytes)
  /-- It waits for `missing` octets of a body; those that have arrived are `pieces`, the last
  first. -/
  | body (keepAlive : Bool) (length : Nat) (pieces : List Bytes) (missing : Nat)
  /-- It waits for a summary. -/
  | summary (keepAlive : Bool) (buffer : Bytes)
  /-- It is over. -/
  | closed
deriving DecidableEq, Repr

/-- What is to be done for a session. -/
inductive Effect where
  /-- A request has been read as far as its head, and what it is for is known. -/
  | begin (head : RequestHead)
  /-- A body is handed in as the payload that it spells. -/
  | ingest (body : Bytes) (payload : String)
  /-- A body that is no text is dropped. -/
  | discard (body : Bytes) (fault : Utf8.Fault)
  /-- A summary is wanted. -/
  | ask (scope : Scope) (query : Option String)
  /-- A response is written. -/
  | respond (reply : Reply)
  /-- A failed request is reported. -/
  | report (fault : RequestFault)
deriving DecidableEq, Repr

def Effect.isWrite : Effect → Bool
  | .respond _ => true
  | _ => false

namespace Session

/-- A request fails: the client is told, unless it has gone, and the session is over. -/
def fail (fault : RequestFault) : Session × List Effect :=
  (.closed,
    if fault.isDisconnect then [] else [.report fault, .respond ⟨fault.status, false, none⟩])

/-- What becomes of a complete body. -/
def takeBody (body : Bytes) : Effect :=
  match Utf8.decode body with
  | .ok payload => .ingest body payload
  | .error fault => .discard body fault

/-- A payment has been handed in: the client is told so, whatever becomes of the payment. -/
def accept (keepAlive : Bool) (body : Bytes) : List Effect :=
  [takeBody body, .respond ⟨200, keepAlive, none⟩]

/-- Where one request has brought the session. -/
inductive Outcome where
  /-- It waits, or it is over. -/
  | waits (session : Session)
  /-- The request has been dealt with, and the next one begins with these octets. -/
  | served (rest : Bytes)

/-- A request has been answered. -/
def Outcome.after (keepAlive : Bool) (rest : Bytes) : Outcome :=
  if keepAlive then .served rest else .waits .closed

/-- Goes on from the head of a request that carries a payment, with the octets that follow it. -/
def onBody (terms : Terms) (keepAlive : Bool) (length : Nat) (rest : Bytes) :
    Outcome × List Effect :=
  if length ≤ rest.length then
    (.after keepAlive (rest.drop length), accept keepAlive (rest.take length))
  else if terms.bodyChunk = 0 then
    let (session, effects) := fail (.bad (.cutBody rest.length length))
    (.waits session, effects)
  else (.waits (.body keepAlive length [rest] (length - rest.length)), [])

/-- Goes on from the head of a request, with the octets that follow it. -/
def onHead (terms : Terms) (head : RequestHead) (rest : Bytes) : Outcome × List Effect :=
  let refuse (cause : BadRequest) : Outcome × List Effect :=
    let (session, effects) := fail (.bad cause)
    (.waits session, effects)
  match Route.ofHead head with
  | .ingest =>
    match head.contentLength with
    | none => refuse .unknownLength
    | some length =>
      if maxBody < length then refuse (.oversizeBody length)
      else onBody terms (!head.close) length rest
  | .summary scope query => (.waits (.summary (!head.close) rest), [.ask scope query])
  | .notFound =>
    -- A body that is left where it is must not be read as the next request.
    let keepAlive := !head.close && !head.contentLength.any (0 < ·)
    (.after keepAlive rest, [.respond ⟨404, keepAlive, none⟩])

/-- Goes on from a buffer, as far as one request. -/
def request (terms : Terms) (buffer : Bytes) : Outcome × List Effect :=
  let refuse (cause : BadRequest) : Outcome × List Effect :=
    let (session, effects) := fail (.bad cause)
    (.waits session, effects)
  match Header.blockEnd? buffer with
  | none =>
    if terms.headCapacity ≤ buffer.length then refuse (.oversizeHead terms.headCapacity)
    else (.waits (.head buffer), [])
  | some i =>
    match RequestHead.read? (buffer.take i) with
    | none => refuse .malformedHead
    | some asked =>
      let (outcome, effects) := onHead terms asked (buffer.drop (i + Header.terminator.length))
      (outcome, .begin asked :: effects)

theorem Outcome.after_eq_served {keepAlive : Bool} {rest rest' : Bytes}
    (h : Outcome.after keepAlive rest = .served rest') : rest = rest' := by
  unfold Outcome.after at h
  split at h <;> cases h
  rfl

theorem onBody_served {terms : Terms} {keepAlive : Bool} {length : Nat} {rest rest' : Bytes}
    {effects : List Effect} (h : onBody terms keepAlive length rest = (.served rest', effects)) :
    rest'.length ≤ rest.length := by
  unfold onBody at h
  split at h
  · simp only [Prod.mk.injEq] at h
    rw [← Outcome.after_eq_served h.1, List.length_drop]
    omega
  · split at h <;> simp only [Prod.mk.injEq, reduceCtorEq, false_and] at h

theorem onHead_served {terms : Terms} {head : RequestHead} {rest rest' : Bytes}
    {effects : List Effect} (h : onHead terms head rest = (.served rest', effects)) :
    rest'.length ≤ rest.length := by
  unfold onHead at h
  split at h
  · split at h
    · simp only [Prod.mk.injEq, reduceCtorEq, false_and] at h
    · split at h
      · simp only [Prod.mk.injEq, reduceCtorEq, false_and] at h
      · exact onBody_served h
  · simp only [Prod.mk.injEq, reduceCtorEq, false_and] at h
  · simp only [Prod.mk.injEq] at h
    exact Nat.le_of_eq (congrArg List.length (Outcome.after_eq_served h.1)).symm

/-- A request that has been dealt with has used up some of the buffer, at least the end of its
head. -/
theorem request_served {terms : Terms} {buffer rest : Bytes} {effects : List Effect}
    (h : request terms buffer = (.served rest, effects)) : rest.length < buffer.length := by
  unfold request at h
  split at h
  · split at h <;> simp only [Prod.mk.injEq, reduceCtorEq, false_and] at h
  · next i found =>
    have within : i + Header.terminator.length ≤ buffer.length := Bytes.find?_add_le found
    have terminator_pos : 0 < Header.terminator.length := by decide
    split at h
    · simp only [Prod.mk.injEq, reduceCtorEq, false_and] at h
    · simp only [Prod.mk.injEq] at h
      have := onHead_served (Prod.ext h.1 rfl)
      rw [List.length_drop] at this
      omega

/-- Goes on from a buffer, request after request, until the session waits or is over. -/
def advance (terms : Terms) (buffer : Bytes) : Session × List Effect :=
  match _h : request terms buffer with
  | (.waits session, effects) => (session, effects)
  | (.served rest, effects) =>
    let (session, more) := advance terms rest
    (session, effects ++ more)
termination_by buffer.length
decreasing_by exact request_served _h

/-- A connection from which nothing has been read. -/
def start (terms : Terms) : Session × List Effect := advance terms []

/-- A request has been answered, and the next one begins with these octets. -/
def proceed (terms : Terms) (keepAlive : Bool) (rest : Bytes) : Session × List Effect :=
  match Outcome.after keepAlive rest with
  | .waits session => (session, [])
  | .served rest => advance terms rest

/-- How many octets the next read may take. -/
def room (terms : Terms) : Session → Nat
  | .head buffer => terms.headCapacity - buffer.length
  | .body _ _ _ missing => min missing terms.bodyChunk
  | .summary .. => 0
  | .closed => 0

/-- The session reads, and does not wait for anything else. -/
def isReading : Session → Bool
  | .head _ => true
  | .body .. => true
  | _ => false

/-- Takes the octets of one read. A read without octets is the end of the stream: between requests
or inside a head it ends the session silently, inside a body the request has failed. -/
def feed (terms : Terms) (session : Session) (octets : Bytes) : Session × List Effect :=
  match session with
  | .head buffer =>
    if octets.isEmpty then (.closed, []) else advance terms (buffer ++ octets)
  | .body keepAlive length pieces missing =>
    if octets.isEmpty then fail (.bad (.cutBody (length - missing) length))
    else if missing ≤ octets.length then
      let (session, effects) := proceed terms keepAlive []
      (session, accept keepAlive (octets :: pieces).reverse.flatten ++ effects)
    else (.body keepAlive length (octets :: pieces) (missing - octets.length), [])
  | session => (session, [])

/-- Takes what the summary came to that the session waits for. -/
def answer (terms : Terms) (session : Session) (result : Except RequestFault Bytes) :
    Session × List Effect :=
  match session with
  | .summary keepAlive rest =>
    match result with
    | .ok json =>
      let (session, effects) := proceed terms keepAlive rest
      (session, .respond ⟨200, keepAlive, some json⟩ :: effects)
    | .error fault => fail fault
  | session => (session, [])

end Session

end PaymentRelay.Edge
