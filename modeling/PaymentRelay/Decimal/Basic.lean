import PaymentRelay.Http.Numeral
import PaymentRelay.Number.Power

/-!
# Amounts of money

An amount is a sign and a coefficient over a power of ten. The power, called the scale, is part of
the value: 19.90 and 19.9 are equal as numbers and are written differently. A coefficient has at
most 96 bits and a scale is at most 28; both bounds are part of the type, so no operation can leave
them behind.

The sign is kept apart from the coefficient because a negative amount that is too small for any
scale is a zero that still counts as negative. A zero that is written as one has no sign.
-/

namespace PaymentRelay

/-- One more than the greatest coefficient: the number of values that 96 bits have. -/
def coeffBound : Nat := 79228162514264337593543950336

/-- The greatest scale. -/
def maxScale : Nat := 28

/-- A decimal number of at most 96 bits with `scale` digits after its point. -/
structure Decimal where
  /-- A minus sign stands in front. -/
  negative : Bool
  /-- The digits, without sign and point. -/
  magnitude : Nat
  /-- How many digits stand after the point. -/
  scale : Nat
  magnitude_lt : magnitude < coeffBound
  scale_le : scale ≤ maxScale
deriving DecidableEq, Repr

namespace Decimal

/-- The decimal of a sign, the digits and a scale, if both are in bounds. -/
def make? (negative : Bool) (magnitude scale : Nat) : Option Decimal :=
  if h : magnitude < coeffBound ∧ scale ≤ maxScale then
    some ⟨negative, magnitude, scale, h.1, h.2⟩
  else none

/-- The number without its point; a zero of either sign gives 0. -/
def coeff (d : Decimal) : Int := if d.negative then -(d.magnitude : Int) else d.magnitude

def zero : Decimal := ⟨false, 0, 0, by decide, by decide⟩

instance : Inhabited Decimal := ⟨zero⟩

def greatest : Decimal := ⟨false, coeffBound - 1, 0, by decide, by decide⟩

def least : Decimal := ⟨true, coeffBound - 1, 0, by decide, by decide⟩

/-- The number lies above the whole number `n`. -/
def exceeds (d : Decimal) (n : Nat) : Bool := d.coeff > n * pow10 d.scale

/-- The digits of the number, `scale` of them after a point and at least one before it; a minus
sign in front if it is negative. -/
def render (d : Decimal) : Bytes :=
  let digits := Numeral.ofNat d.magnitude
  let padded := List.replicate (d.scale + 1 - digits.length) 0x30 ++ digits
  let whole := padded.take (padded.length - d.scale)
  let fraction := padded.drop (padded.length - d.scale)
  (if d.negative then [0x2D] else []) ++ whole ++ (if d.scale = 0 then [] else 0x2E :: fraction)

end Decimal

end PaymentRelay
