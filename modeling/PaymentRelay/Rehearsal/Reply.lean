import PaymentRelay.Health.Monitor
import PaymentRelay.Peer.Client

/-!
# Rehearsed replies

What the other side of a connection does once a request has reached it: it waits, sends some
octets piece by piece, each of which is read before the next is sent, and then hangs up or stays.
-/

namespace PaymentRelay.Rehearsal

/-- What is done about one request. -/
structure Reply where
  /-- How long the other side waits first. -/
  delay : Ticks
  /-- What it sends, piece by piece. -/
  pieces : List Bytes
  /-- It hangs up afterwards. -/
  hangsUp : Bool
deriving DecidableEq, Repr

namespace Reply

def silence : Reply := ⟨0, [], true⟩

def atOnce (octets : Bytes) : Reply := ⟨0, [octets], false⟩

def accepted : Reply := .atOnce (utf8 "HTTP/1.1 200 OK\r\nContent-Length: 0\r\n\r\n")

end Reply

/-- What a sibling does that follows a script. -/
inductive SiblingScript where
  /-- It cannot be reached. -/
  | unreachable
  /-- It replies. -/
  | replies (reply : Reply)
deriving DecidableEq, Repr

/-- What happens on the connection to a scripted sibling if nobody waits for time to pass: a reply
with a delay does not come. -/
def SiblingScript.events : SiblingScript → List Peer.Inquiry.Event
  | .unreachable => [.sent (some .notFound)]
  | .replies reply =>
    .sent none ::
      if reply.delay = 0 then reply.pieces.map .deliver ++ if reply.hangsUp then [.hangUp] else []
      else []

end PaymentRelay.Rehearsal
