/-!
# Instants

A point in time as seconds since the start of 1970 and nanoseconds. A leap second has no number of
its own: it is the second before it with a thousand million nanoseconds or more, and so its
milliseconds run from 1000 on.
-/

namespace PaymentRelay

/-- Milliseconds since the start of 1970. -/
abbrev Millis := Int

/-- A point in time. -/
structure Instant where
  /-- Whole seconds since the start of 1970. -/
  seconds : Int
  /-- Nanoseconds within the second, below 10⁹, or below 2·10⁹ in a leap second. -/
  nanos : Nat
deriving DecidableEq, Repr, Inhabited

namespace Instant

def nanosPerSecond : Nat := 1000000000

/-- The instant in whole milliseconds, rounded down. -/
def toMillis (t : Instant) : Millis := t.seconds * 1000 + (t.nanos / 1000000 : Nat)

def ofMillis (ms : Millis) : Instant := ⟨ms / 1000, (ms % 1000).toNat * 1000000⟩

/-- The instant some whole seconds earlier. A positive step back out of a leap second first counts
that second as one of its own. -/
def before (t : Instant) (seconds : Nat) : Instant :=
  if seconds > 0 && t.nanos ≥ nanosPerSecond then
    ⟨t.seconds + 1 - seconds, t.nanos - nanosPerSecond⟩
  else ⟨t.seconds - seconds, t.nanos⟩

end Instant

end PaymentRelay
