import PaymentRelay.Payment.Source

/-!
# Health of a processor

A monitor holds a processor to be up or down. Going down sets a deadline at which the monitor goes
up again on its own, so that a false alarm cannot hold payments back for long; going up lifts the
deadline. While the monitor is down, further alarms change nothing: the first deadline stands.

The timer that brings a deadline about is somebody else's. It comes back with the deadline that it
was set for, perhaps after that deadline was lifted, and then it must leave the monitor alone.

What is published is what waiting tasks look at. It changes with the state, in the same step.
-/

namespace PaymentRelay

/-- Milliseconds on a clock that never goes back. -/
abbrev Ticks := Nat

/-- The health of one processor. -/
structure Monitor where
  source : Source
  /-- How long the monitor stays down of its own accord. -/
  delay : Ticks
  /-- The processor is held to be up. -/
  isUp : Bool
  /-- When the armed timer will bring the monitor up. -/
  deadline : Option Ticks
  /-- What waiting tasks see. -/
  published : Bool
deriving DecidableEq, Repr

namespace Monitor

/-- A monitor that is up. -/
def new (source : Source) (delay : Ticks) : Monitor := ⟨source, delay, true, none, true⟩

/-- Goes down, and arms a timer unless one is armed. -/
def markDown (m : Monitor) (now : Ticks) : Monitor :=
  { m with
    isUp := false
    published := if m.isUp then false else m.published
    deadline := some (m.deadline.getD (now + m.delay)) }

def rise (m : Monitor) : Monitor :=
  { m with isUp := true, published := if m.isUp then m.published else true }

/-- Goes up, and disarms the timer. -/
def markUp (m : Monitor) : Monitor := { m.rise with deadline := none }

/-- The timer that was set for `deadline` comes back. -/
def expire (m : Monitor) (deadline : Ticks) : Monitor :=
  if m.deadline = some deadline then { m.rise with deadline := none } else m

/-- The report of what an operation did to the state, if it changed. -/
def report (before after : Monitor) : Option String :=
  if before.isUp = after.isUp then none
  else if after.isUp then some ("🟢 " ++ after.source.label ++ " processor marked up")
  else some ("🔴 " ++ after.source.label ++ " processor marked down")

end Monitor

end PaymentRelay
