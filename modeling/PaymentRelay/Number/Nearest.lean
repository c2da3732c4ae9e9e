/-!
# Rounding a quotient

Both rules give the nearest integer and differ on a half: sums of amounts and binary fractions go to
the even neighbour, and the digits of an amount that stand too far behind its point go up.
-/

namespace PaymentRelay

/-- The integer nearest to `n / unit`; of two equally near ones, the even one. -/
def nearestEven (n unit : Nat) : Nat :=
  let quotient := n / unit
  let twice := 2 * (n % unit)
  if twice > unit ∨ (twice = unit ∧ quotient % 2 = 1) then quotient + 1 else quotient

/-- The integer nearest to `n / unit`; of two equally near ones, the greater one. -/
def nearestUp (n unit : Nat) : Nat := (2 * n + unit) / (2 * unit)

end PaymentRelay
