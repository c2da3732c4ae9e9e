/-!
# Faults of a connection

What can go wrong between this program and whatever it is connected to. Two of the faults are the
other side's doing and not the network's: a response head that does not fit, and one whose first
line is no status line. Clients report those two apart from the others.

A fault is of a kind, and it has a wording. Streams that end too early are all of one kind, but the
end of a body that was to be kept is worded in its own way.
-/

namespace PaymentRelay.Transport

/-- Why a connection could not be made or used. -/
inductive Fault where
  /-- The stream ended where more was due. -/
  | endOfStream
  /-- The stream ended in a body that was to be kept. -/
  | endOfBody
  /-- A write took nothing. -/
  | writeZero
  /-- The other side has hung up and takes no more. -/
  | brokenPipe
  /-- The other side broke the connection off. -/
  | connectionReset
  /-- Nobody answers at the address. -/
  | connectionRefused
  /-- There is no such address. -/
  | notFound
  /-- A header block does not fit into its buffer. -/
  | oversizeHead
  /-- The first line of a response is no status line. -/
  | malformedStatusLine
  /-- Anything else, in words. -/
  | described (text : String)
deriving DecidableEq, Repr

def Fault.message : Fault → String
  | .endOfStream => "unexpected end of file"
  | .endOfBody => "early eof"
  | .writeZero => "write zero"
  | .brokenPipe => "the other side has hung up"
  | .connectionReset => "the connection was broken off"
  | .connectionRefused => "nobody answers at the address"
  | .notFound => "there is no such address"
  | .oversizeHead => "header block exceeds buffer capacity"
  | .malformedStatusLine => "malformed status line"
  | .described text => text

/-- The kinds of faults. -/
inductive Fault.Kind where
  | unexpectedEnd
  | writeZero
  | brokenPipe
  | connectionReset
  | connectionRefused
  | notFound
  | invalidData
  | other
deriving DecidableEq, Repr

/-- The kind of a fault. -/
def Fault.kind : Fault → Fault.Kind
  | .endOfStream | .endOfBody => .unexpectedEnd
  | .writeZero => .writeZero
  | .brokenPipe => .brokenPipe
  | .connectionReset => .connectionReset
  | .connectionRefused => .connectionRefused
  | .notFound => .notFound
  | .oversizeHead | .malformedStatusLine => .invalidData
  | .described _ => .other

/-- The other side answered, but not with a response head. -/
def Fault.isMalformed : Fault → Bool
  | .oversizeHead | .malformedStatusLine => true
  | _ => false

end PaymentRelay.Transport
