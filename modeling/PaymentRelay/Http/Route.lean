import PaymentRelay.Http.Request
import PaymentRelay.Payment.Window

/-!
# Routes

What a request is for. Payments are posted to one exact target, without a query; a summary is asked
for by a path that starts so, and the longer of the two starts is tried first, since one is a start
of the other.
-/

namespace PaymentRelay

/-- What a request is for. -/
inductive Route where
  /-- A payment is handed in. -/
  | ingest
  /-- A summary is asked for. -/
  | summary (scope : Scope) (query : Option String)
  /-- Nothing is there. -/
  | notFound
deriving DecidableEq, Repr

namespace Route

def paymentsPath : String := "/payments"

def summaryPath : String := "/payments-summary"

def lockPath : String := "/payments-summary-lock"

def startsWith (path start : String) : Bool := start.toList.isPrefixOf path.toList

/-- What a request is for. -/
def ofHead (head : RequestHead) : Route :=
  if head.method = "POST" ∧ head.target = paymentsPath then .ingest
  else if head.method = "GET" then
    if startsWith head.path lockPath then .summary .lock head.query
    else if startsWith head.path summaryPath then .summary .merged head.query
    else .notFound
  else .notFound

end Route

end PaymentRelay
