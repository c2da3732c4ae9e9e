import PaymentRelay.Decimal.Basic
import PaymentRelay.Number.Nearest

/-!
# Sums

Two amounts are added at the larger of their scales. If the exact sum has too many digits it is
rounded, half to even, to the largest scale at which it fits; if it fits at none, the sum is the
greatest or the least decimal. So a sum never fails, and it is exact as long as it fits.

A zero operand leaves the other operand as it is, scale and sign included, even where the zero has
the larger scale. Two amounts that cancel out make a zero without a sign.
-/

namespace PaymentRelay.Decimal

/-- Where a sum ends that fits at no scale. -/
def extreme (negative : Bool) : Decimal := if negative then least else greatest

/-- Drops as many digits of `n` as it takes to fit, and no more than stand after the point; `gone`
of them have been dropped already and `scale` are left. The sign plays no part in the rounding. -/
def fit (negative : Bool) (n gone : Nat) : (scale : Nat) → scale ≤ maxScale → Decimal
  | 0, h =>
    let r := nearestEven n (pow10 gone)
    if hr : r < coeffBound then ⟨negative, r, 0, hr, h⟩ else extreme negative
  | scale + 1, h =>
    let r := nearestEven n (pow10 gone)
    if hr : r < coeffBound then ⟨negative, r, scale + 1, hr, h⟩
    else fit negative n (gone + 1) scale (Nat.le_of_succ_le h)

/-- The coefficient that the number has at a larger scale. -/
def coeffAt (d : Decimal) (scale : Nat) : Int := d.coeff * pow10 (scale - d.scale)

/-- The sum, rounded and bounded as need be. -/
def add (a b : Decimal) : Decimal :=
  if a.magnitude = 0 then b
  else if b.magnitude = 0 then a
  else
    let scale := max a.scale b.scale
    let sum := a.coeffAt scale + b.coeffAt scale
    fit (sum < 0) sum.natAbs 0 scale (Nat.max_le.mpr ⟨a.scale_le, b.scale_le⟩)

instance : Add Decimal := ⟨add⟩

end PaymentRelay.Decimal
