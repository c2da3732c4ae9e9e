import PaymentRelay.Http.Response
import PaymentRelay.Payment.Window
import PaymentRelay.Peer.Fault
import PaymentRelay.Transport.Fault

/-!
# Requests that fail

A request may fail through the client's doing, through the sibling's, through an accident in here,
or because the client's connection broke. In the last case there is nobody left to answer; in the
others the client gets a status, and the connection is closed after it.
-/

namespace PaymentRelay

/-- What is wrong with a request. -/
inductive BadRequest where
  /-- Its head does not end within the buffer. -/
  | oversizeHead (capacity : Nat)
  /-- Its head cannot be read. -/
  | malformedHead
  /-- It should have a body and declares no legible length. -/
  | unknownLength
  /-- It declares more than is taken. -/
  | oversizeBody (length : Nat)
  /-- The stream ended inside its body. -/
  | cutBody (arrived length : Nat)
  /-- It asks for a window that cannot be read. -/
  | window (fault : Window.Fault)
  /-- Anything else, in words. -/
  | described (text : String)
deriving DecidableEq, Repr

def BadRequest.message : BadRequest → String
  | .oversizeHead capacity => s!"request head exceeds {capacity} bytes"
  | .malformedHead => "malformed request head"
  | .unknownLength => "missing or malformed Content-Length"
  | .oversizeBody length => s!"body of {length} bytes is too large"
  | .cutBody arrived length => s!"body ended after {arrived} of {length} bytes"
  | .window fault => fault.message
  | .described text => text

/-- Why a request is not answered as it wished. -/
inductive RequestFault where
  /-- The request is wrong. -/
  | bad (cause : BadRequest)
  /-- The client's connection broke. -/
  | transport (fault : Transport.Fault)
  /-- The sibling's part of the answer could not be had. -/
  | peer (fault : PeerFault)
  /-- Something went wrong in here. -/
  | internal (text : String)
deriving DecidableEq, Repr

namespace RequestFault

def message : RequestFault → String
  | .bad cause => "Bad request: " ++ cause.message
  | .transport fault => "I/O error: " ++ fault.message
  | .peer fault => "Peer reconciliation error: " ++ fault.message
  | .internal text => "Internal error: " ++ text

/-- The status that the client is told. -/
def status : RequestFault → Status
  | .bad _ => 400
  | _ => 500

/-- There is nobody left to answer. -/
def isDisconnect : RequestFault → Bool
  | .transport _ => true
  | _ => false

end RequestFault

/-- The window that a client asks for at the time `now`. A query that cannot be read is the client's
doing. -/
def Window.asked (query : Option String) (scope : Scope) (now : Instant) :
    Except RequestFault Window :=
  (ofQuery query scope now).mapError fun fault ↦ .bad (.window fault)

end PaymentRelay
