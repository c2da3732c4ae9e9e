import PaymentRelay.Health.Monitor
import PaymentRelay.Http.Exchange
import PaymentRelay.Json.Record

/-!
# Probing a processor

Now and then a processor is asked how it is, and its monitor is set by what comes back. Only one
answer is a good sign: a response with status 200 whose body is a record that says it is not
failing. Whatever else comes, or fails to come, is a bad sign, and all but a plain `failing` is
worth a warning.
-/

namespace PaymentRelay

/-- Why an answer about a processor's health could not be had. -/
inductive ProbeFault where
  /-- No response came. -/
  | unanswered (fault : Transport.Fault)
  /-- It answered with another status than 200. -/
  | status (code : Status)
  /-- It answered, and not with a health record. -/
  | unreadable (fault : Json.Fault)
deriving DecidableEq, Repr

namespace Probe

def path : String := "/payments/service-health"

/-- The members of a health record that have been found. -/
structure Found where
  failing : Option Bool := none

def members : List (Json.Member Found) :=
  [⟨"failing", (·.failing.isSome), fun _ bs ↦
      (Json.truth bs).map fun (failing, rest) ↦ (⟨some failing⟩, rest)⟩]

/-- Reads a health record: whether the processor is failing. -/
def failing (body : Bytes) : Except Json.Fault Bool :=
  Json.readAll (Json.record members {} fun found ↦ Json.required found.failing) body

/-- A response to a probe. -/
structure Response where
  status : Status
  body : Bytes
deriving DecidableEq, Repr

/-- How the response to a probe is read: a head of at most 8192 octets, and the whole body. -/
def responseTerms : Exchange.Terms := ⟨8192, .collect⟩

/-- The response that a processor sends before it hangs up. -/
def Response.ofReads (stream : Reads) : Except Transport.Fault Response :=
  match (Exchange.read responseTerms stream).1 with
  | .complete response => .ok ⟨response.answer.status, response.body⟩
  | .failed fault => .error fault
  | .reading _ => .error .endOfStream

/-- Whether a processor is well, from what came back. -/
def isWell (answer : Except Transport.Fault Response) : Except ProbeFault Bool :=
  match answer with
  | .error fault => .error (.unanswered fault)
  | .ok response =>
    if response.status = 200 then
      match failing response.body with
      | .ok failing => .ok (!failing)
      | .error fault => .error (.unreadable fault)
    else .error (.status response.status)

def statusText (status : Status) : String :=
  toString status ++ " " ++ (Status.phrase? status).getD "<unknown status code>"

/-- The warning that a fault calls for, cause and all. -/
def report (source : Source) : ProbeFault → String
  | .unanswered fault => "Health check for " ++ source.label ++ " failed: " ++ fault.message
  | .status code => "Health check for " ++ source.label ++ " answered " ++ statusText code
  | .unreadable fault => "Unreadable health body for " ++ source.label ++ ": " ++ fault.message

/-- The monitor after a probe at the time `now`. -/
def apply (m : Monitor) (now : Ticks) (answer : Except Transport.Fault Response) : Monitor :=
  match isWell answer with
  | .ok true => m.markUp
  | _ => m.markDown now

end Probe

end PaymentRelay
