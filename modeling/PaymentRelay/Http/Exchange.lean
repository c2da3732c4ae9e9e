import PaymentRelay.Bytes.Reads
import PaymentRelay.Http.Response
import PaymentRelay.Transport.Fault

/-!
# Reading a response

A client reads the head of a response into a bounded buffer and then exactly as many body octets as
the head declares, none if it declares no legible length. The stream is left at the first octet
after the body, which is what makes a connection usable again; but octets that arrived together with
the head and lie past the body are in the buffer, and they are gone.

The reader is a machine. `Stage` says what it waits for and how many octets it would take at most,
`feed` gives it the octets of one read. It is run here over a stream that is there as a whole, and
elsewhere over one that arrives while other things happen.
-/

namespace PaymentRelay.Exchange

/-- What becomes of a response body. -/
inductive Sink where
  /-- It is kept. -/
  | collect
  /-- It is thrown away, at most so many octets at a time. -/
  | discard (scratch : Nat)
deriving DecidableEq, Repr

/-- How a response is read. -/
structure Terms where
  /-- The size of the buffer for the head. -/
  capacity : Nat
  /-- What becomes of the body. -/
  sink : Sink
deriving DecidableEq, Repr

/-- What a response head says. -/
structure Answer where
  status : Status
  /-- How many octets the body has. -/
  length : Nat
deriving DecidableEq, Repr

/-- What is still to be read. -/
inductive Stage where
  /-- The buffer holds no line feed. -/
  | line (buffer : Bytes)
  /-- The buffer holds a status line and no blank line. -/
  | block (status : Status) (buffer : Bytes)
  /-- The head is read and `missing` body octets are not; those that are, are `pieces`, the last
  first. -/
  | body (answer : Answer) (buffer : Bytes) (pieces : List Bytes) (missing : Nat)
deriving DecidableEq, Repr

/-- A response that has been read. -/
structure Complete where
  answer : Answer
  /-- The head and what arrived with it. -/
  buffer : Bytes
  /-- The body, or the part of it that arrived with the head if it is not kept. -/
  body : Bytes
deriving DecidableEq, Repr

/-- How far the reading has come. -/
inductive State where
  | reading (stage : Stage)
  | complete (response : Complete)
  | failed (fault : Transport.Fault)
deriving DecidableEq, Repr

/-- Waits for more, unless the buffer is full. -/
def await (terms : Terms) (buffer : Bytes) (stage : Stage) : State :=
  if terms.capacity ≤ buffer.length then .failed .oversizeHead else .reading stage

/-- Goes on from a head whose body has `missing` octets to come. -/
def onBody (answer : Answer) (buffer : Bytes) (pieces : List Bytes) (missing : Nat) : State :=
  if missing = 0 then .complete ⟨answer, buffer, pieces.reverse.flatten⟩
  else .reading (.body answer buffer pieces missing)

/-- Goes on from a buffer that holds a status line. -/
def onBlock (terms : Terms) (status : Status) (buffer : Bytes) : State :=
  match Header.blockEnd? buffer with
  | none => await terms buffer (.block status buffer)
  | some i =>
    let length := (Header.contentLength? (buffer.take i)).getD 0
    let arrived := (buffer.drop (i + Header.terminator.length)).take length
    onBody ⟨status, length⟩ buffer [arrived] (length - arrived.length)

/-- Goes on from a buffer. -/
def onLine (terms : Terms) (buffer : Bytes) : State :=
  match buffer.findIdx? (· == Octet.lf) with
  | none => await terms buffer (.line buffer)
  | some i =>
    match Status.ofLine? (buffer.take i) with
    | none => .failed .malformedStatusLine
    | some status => onBlock terms status buffer

def start (terms : Terms) : State := onLine terms []

def Stage.room (terms : Terms) : Stage → Nat
  | .line buffer => terms.capacity - buffer.length
  | .block _ buffer => terms.capacity - buffer.length
  | .body _ _ _ missing =>
    match terms.sink with
    | .collect => missing
    | .discard scratch => min missing scratch

/-- The fault of a stream that ends in a body. -/
def Sink.ended : Sink → Transport.Fault
  | .collect => .endOfBody
  | .discard _ => .endOfStream

/-- The fault of a stream that ends too early. -/
def Stage.ended (terms : Terms) : Stage → Transport.Fault
  | .line _ | .block .. => .endOfStream
  | .body .. => terms.sink.ended

/-- Takes the octets of one read. A read without octets is the end of the stream. -/
def feed (terms : Terms) (stage : Stage) (octets : Bytes) : State :=
  if octets.isEmpty then .failed (stage.ended terms)
  else
    match stage with
    | .line buffer => onLine terms (buffer ++ octets)
    | .block status buffer => onBlock terms status (buffer ++ octets)
    | .body answer buffer pieces missing =>
      let pieces := if terms.sink = .collect then octets :: pieces else pieces
      onBody answer buffer pieces (missing - octets.length)

/-- Reads on from a stream until the response is complete or the reading fails. -/
def readFrom (terms : Terms) (state : State) (stream : Reads) : State × Reads :=
  match state with
  | .complete response => (.complete response, stream)
  | .failed fault => (.failed fault, stream)
  | .reading stage =>
    match _h : stream.read (stage.room terms) with
    | ([], rest) => (.failed (stage.ended terms), rest)
    | (b :: bs, rest) => readFrom terms (feed terms stage (b :: bs)) rest
termination_by stream.flat.length
decreasing_by exact Reads.read_shortens _h

def read (terms : Terms) (stream : Reads) : State × Reads := readFrom terms (start terms) stream

/-- Reads on from what has arrived, as long as anything is there; what the reading does not ask for
is left. Unlike a stream that is there as a whole, this one has not ended. -/
def absorb (terms : Terms) (state : State) (inbox : Bytes) : State × Bytes :=
  match state with
  | .reading stage =>
    let room := stage.room terms
    if _h : room = 0 ∨ inbox = [] then (.reading stage, inbox)
    else absorb terms (feed terms stage (inbox.take room)) (inbox.drop room)
  | state => (state, inbox)
termination_by inbox.length
decreasing_by
  have inbox_pos : 0 < inbox.length := List.length_pos_iff.mpr (not_or.mp _h).2
  have room_pos : 0 < stage.room terms := Nat.pos_of_ne_zero (not_or.mp _h).1
  simp only [List.length_drop]
  omega

def finish (terms : Terms) : State → State
  | .reading stage => .failed (stage.ended terms)
  | state => state

/-! ## Buffers that are used again -/

/-- What a caller lends to a reading, and what it holds afterwards. -/
structure Buffers where
  head : Bytes
  body : Bytes
deriving DecidableEq, Repr

def Buffers.clearHead (buffers : Buffers) : Buffers := { buffers with head := [] }

/-- Puts a body in the place of what the buffer for it held, if it is to be kept. -/
def Buffers.takeBody (buffers : Buffers) (sink : Sink) (body : Bytes) : Buffers :=
  match sink with
  | .collect => { buffers with body }
  | .discard _ => buffers

/-- Reads one response into buffers that may hold anything. What they hold after a fault is of no
use to anybody. -/
def readInto (terms : Terms) (buffers : Buffers) (stream : Reads) :
    Except Transport.Fault (Answer × Buffers) × Reads :=
  let buffers := buffers.clearHead
  match readFrom terms (onLine terms buffers.head) stream with
  | (.complete response, rest) =>
    (.ok (response.answer,
      { buffers with head := response.buffer }.takeBody terms.sink response.body), rest)
  | (.failed fault, rest) => (.error fault, rest)
  | (.reading stage, rest) => (.error (stage.ended terms), rest)

/-- Reads responses one after another into the same buffers, each body to its own sink, until one
fails. -/
def readEach (capacity : Nat) (buffers : Buffers) (stream : Reads) :
    List Sink → List (Except Transport.Fault (Answer × Buffers)) × Reads
  | [] => ([], stream)
  | sink :: sinks =>
    match readInto ⟨capacity, sink⟩ buffers stream with
    | (.error fault, rest) => ([.error fault], rest)
    | (.ok (answer, buffers), rest) =>
      let (more, rest) := readEach capacity buffers rest sinks
      (.ok (answer, buffers) :: more, rest)

/-! ## A single read into a buffer -/

/-- Reads once more into a buffer that holds at most `capacity` octets: how many came, which is none
at the end of the stream, or the fault of a full buffer. -/
def fill (capacity : Nat) (buffer : Bytes) (stream : Reads) :
    Except Transport.Fault Nat × Bytes × Reads :=
  if capacity ≤ buffer.length then (.error .oversizeHead, buffer, stream)
  else
    let (octets, rest) := stream.read (capacity - buffer.length)
    (.ok octets.length, buffer ++ octets, rest)

end PaymentRelay.Exchange
