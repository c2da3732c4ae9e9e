import PaymentRelay.Http.Exchange
import PaymentRelay.Http.Route
import PaymentRelay.Payment.Summary
import PaymentRelay.Peer.Fault

/-!
# Asking the sibling

The sibling instance is asked for the summary of its own payments, on a connection of its own, and
what it answers counts only if it is a complete response with status 200 that holds a summary.

An inquiry is a machine that is told what happens on its connection. Once it has an answer, nothing
that happens there changes it.
-/

namespace PaymentRelay.Peer

/-- What the sibling is asked for: the window in whole milliseconds. -/
def target (w : Window) : Bytes :=
  utf8 Route.lockPath ++ 0x3F :: Form.write
    [(utf8 Window.Side.start.name, Rfc3339.writeMillis w.start),
      (utf8 Window.Side.stop.name, Rfc3339.writeMillis w.stop)]

def request (w : Window) : Bytes := utf8 (Request.get (target w).toText "localhost")

/-- How the response is read: a head of at most 1024 octets, and the whole body. -/
def responseTerms : Exchange.Terms := ⟨1024, .collect⟩

/-- What a complete response says. -/
def summaryOf (response : Exchange.Complete) : Except PeerFault Summary :=
  if response.answer.status = 200 then (Summary.read response.body).mapError .undecodable
  else .error (.status response.answer.status)

/-- How far an inquiry has come. -/
inductive Inquiry where
  /-- The request has not been written. -/
  | asking
  /-- The response is being read. -/
  | reading (stage : Exchange.Stage)
  /-- It is over. -/
  | answered (result : Except PeerFault Summary)

namespace Inquiry

/-- What happens on the connection. -/
inductive Event where
  /-- The connection is made and the request written, unless something goes wrong. -/
  | sent (failure : Option Transport.Fault)
  /-- Octets arrive. -/
  | deliver (octets : Bytes)
  /-- The sibling hangs up. -/
  | hangUp
  /-- The connection breaks, and a read fails. -/
  | broken (fault : Transport.Fault)
deriving DecidableEq, Repr

/-- Where a reading has brought the inquiry. -/
def ofState : Exchange.State → Inquiry
  | .reading stage => .reading stage
  | .complete response => .answered (summaryOf response)
  | .failed fault => .answered (.error (.transport fault))

def step (inquiry : Inquiry) (event : Event) : Inquiry :=
  match inquiry, event with
  | .asking, .sent none => .ofState (Exchange.start responseTerms)
  | .asking, .sent (some fault) => .answered (.error (.transport fault))
  | .reading stage, .deliver octets =>
    .ofState (Exchange.absorb responseTerms (.reading stage) octets).1
  | .reading stage, .hangUp => .ofState (Exchange.finish responseTerms (.reading stage))
  | .reading _, .broken fault => .answered (.error (.transport fault))
  | inquiry, _ => inquiry

def run (inquiry : Inquiry) (events : List Event) : Inquiry := events.foldl step inquiry

/-- What an inquiry came to, if it is over. -/
def result? : Inquiry → Option (Except PeerFault Summary)
  | .answered result => some result
  | _ => none

end Inquiry

end PaymentRelay.Peer
