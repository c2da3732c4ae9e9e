import PaymentRelay.Text.Form
import PaymentRelay.Text.Quoted
import PaymentRelay.Time.Rfc3339

/-!
# Windows

The period that a summary is asked for, both ends included. Each end is given as a timestamp or
left out; what is left out depends only on the time of the request and on who asks. A query may name
an end twice: the last counts, but every one of them must be a timestamp.
-/

namespace PaymentRelay

/-- Who asks for a summary. -/
inductive Scope where
  /-- The public: this instance's payments and its sibling's. -/
  | merged
  /-- The sibling: this instance's payments only. -/
  | lock
deriving DecidableEq, Repr

/-- How far back a window reaches that names no start, in seconds. -/
def Scope.lookback : Scope → Nat
  | .merged => 120
  | .lock => 30

/-- A period, both ends included. -/
structure Window where
  start : Instant
  stop : Instant
deriving DecidableEq, Repr

namespace Window

/-- An end of a window. -/
inductive Side where
  | start
  | stop
deriving DecidableEq, Repr

def Side.name : Side → String
  | .start => "from"
  | .stop => "to"

/-- A value that is no timestamp. -/
structure Fault where
  /-- The end it was given for. -/
  side : Side
  /-- The value. -/
  value : String
  /-- What is wrong with it. -/
  cause : Rfc3339.Fault
deriving DecidableEq, Repr

def Fault.message (f : Fault) : String :=
  "invalid `" ++ f.side.name ++ "` timestamp " ++ Text.quote f.value ++ ": " ++ f.cause.message

/-- The ends that a query names, so far. -/
structure Ends where
  start : Option Instant := none
  stop : Option Instant := none
deriving DecidableEq, Repr

/-- An end is named. -/
def Ends.set (ends : Ends) (t : Instant) : Side → Ends
  | .start => { ends with start := some t }
  | .stop => { ends with stop := some t }

/-- The end that a name stands for. -/
def sideOf? (name : String) : Option Side :=
  if name = Side.start.name then some .start
  else if name = Side.stop.name then some .stop
  else none

/-- Reads the pairs of a query in order. Names that stand for no end are passed over. -/
def endsFrom (ends : Ends) : List (String × String) → Except Fault Ends
  | [] => .ok ends
  | (name, value) :: pairs =>
    match sideOf? name with
    | none => endsFrom ends pairs
    | some side =>
      match Rfc3339.read (utf8 value) with
      | .ok t => endsFrom (ends.set t side) pairs
      | .error cause => .error ⟨side, value, cause⟩

/-- The window that a query asks for at the time `now`. -/
def ofQuery (query : Option String) (scope : Scope) (now : Instant) : Except Fault Window :=
  (endsFrom {} (Form.pairs (utf8 (query.getD "")))).map fun ends ↦
    ⟨ends.start.getD (now.before scope.lookback), ends.stop.getD now⟩

end Window

end PaymentRelay
