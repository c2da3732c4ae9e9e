import PaymentRelay.Edge.Session
import PaymentRelay.Processor.Fault

/-!
# Notices

What the operator is warned of.
-/

namespace PaymentRelay

/-- A warning. -/
inductive Notice where
  /-- The retry queue is full, in the queue's own words. -/
  | queueFull (report : String)
  /-- A payload that was handed in says no payment. -/
  | paymentDropped (fault : PaymentFault)
  /-- A payload from the retry queue says no payment. -/
  | queuedPayloadDropped (fault : PaymentFault)
  /-- The body of a request is no text. -/
  | bodyDropped (fault : Utf8.Fault)
  /-- A request failed. -/
  | requestFailed (fault : RequestFault)
deriving DecidableEq, Repr

namespace Notice

def heading : Notice → String
  | .queueFull _ => ""
  | .paymentDropped _ => "Dropping payment: "
  | .queuedPayloadDropped _ => "Dropping queued payload: "
  | .bodyDropped _ => "Dropping non UTF-8 payment body: "
  | .requestFailed _ => "❌ Request failed: "

/-- The cause that a notice gives. -/
def cause : Notice → String
  | .queueFull report => report
  | .paymentDropped fault => fault.message
  | .queuedPayloadDropped fault => fault.message
  | .bodyDropped fault => fault.message
  | .requestFailed fault => fault.message

def message (notice : Notice) : String := notice.heading ++ notice.cause

end Notice

/-- The warning that an effect of a session calls for. -/
def Edge.Effect.notice? : Edge.Effect → Option Notice
  | .discard _ fault => some (.bodyDropped fault)
  | .report fault => some (.requestFailed fault)
  | .begin _ | .ingest .. | .ask .. | .respond _ => none

end PaymentRelay
