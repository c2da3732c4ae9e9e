import PaymentRelay.Http.Response
import PaymentRelay.Json.Basic
import PaymentRelay.Transport.Fault

/-!
# A sibling that does not answer

Why the sibling instance's summary could not be had.
-/

namespace PaymentRelay

/-- Why the sibling's summary is not there. -/
inductive PeerFault where
  /-- The connection failed, or what came was no response. -/
  | transport (fault : Transport.Fault)
  /-- It answered with another status than 200. -/
  | status (code : Status)
  /-- Its answer was no summary. -/
  | undecodable (fault : Json.Fault)
deriving DecidableEq, Repr

def PeerFault.message : PeerFault → String
  | .transport fault => "Peer transport error: " ++ fault.message
  | .status code => "Peer answered with status " ++ toString code
  | .undecodable fault => "Peer summary could not be decoded: " ++ fault.message

end PaymentRelay
