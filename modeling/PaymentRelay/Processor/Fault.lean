import PaymentRelay.Http.Response
import PaymentRelay.Payment.Payload
import PaymentRelay.Payment.Source
import PaymentRelay.Transport.Fault

/-!
# Failed payments

A payment that did not go through either never could, because its payload says no payment, or was
sent to a processor and failed there. Only the second kind is worth another attempt.
-/

namespace PaymentRelay

/-- Why a processor did not take a payment. -/
inductive ProcessorFault where
  /-- The connection failed. -/
  | transport (fault : Transport.Fault)
  /-- It answered with another status than 200. -/
  | status (code : Status)
  /-- Its answer was no response. -/
  | malformed (fault : Transport.Fault)
deriving DecidableEq, Repr

namespace ProcessorFault

/-- What a fault of the connection means for the payment. -/
def ofTransport (fault : Transport.Fault) : ProcessorFault :=
  if fault.isMalformed then .malformed fault else .transport fault

def message : ProcessorFault → String
  | .transport fault => "Transport error: " ++ fault.message
  | .status code => "Processor answered with status " ++ toString code
  | .malformed fault => "Malformed processor response: " ++ fault.message

end ProcessorFault

/-- What became of a call to a processor. -/
inductive ProcessorOutcome where
  /-- The processor took the payment. -/
  | taken
  /-- It did not, for all that is known here. -/
  | refused (fault : ProcessorFault)
deriving DecidableEq, Repr

/-- Why a payload did not become a recorded payment. -/
inductive PaymentFault where
  /-- It says no payment. -/
  | invalidPayload (fault : Payload.Fault)
  /-- The processor that was chosen did not take it. -/
  | dispatch (source : Source) (fault : ProcessorFault)
deriving DecidableEq, Repr

namespace PaymentFault

/-- Another attempt may succeed. -/
def isRetryable : PaymentFault → Bool
  | .invalidPayload _ => false
  | .dispatch .. => true

def message : PaymentFault → String
  | .invalidPayload fault => "Invalid payment payload: " ++ fault.message
  | .dispatch source fault =>
    "Dispatch to " ++ source.label ++ " processor failed: " ++ fault.message

end PaymentFault

end PaymentRelay
