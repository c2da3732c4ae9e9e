/-!
# Endpoints

Where something listens: at a path of the file system or at a host and port.
-/

namespace PaymentRelay.Transport

/-- An address. -/
inductive Endpoint where
  /-- A socket file. -/
  | unix (path : String)
  /-- A host and a port. -/
  | tcp (address : String)
deriving DecidableEq, Repr

def Endpoint.text : Endpoint → String
  | .unix path => "unix:" ++ path
  | .tcp address => "tcp:" ++ address

end PaymentRelay.Transport
