/-!
# Powers of two and of ten

The two powers that numbers are scaled by here, both of natural numbers.
-/

namespace PaymentRelay

def pow2 (n : Nat) : Nat := Nat.pow 2 n

def pow10 (n : Nat) : Nat := Nat.pow 10 n

@[simp] theorem pow2_zero : pow2 0 = 1 := rfl

@[simp] theorem pow10_zero : pow10 0 = 1 := rfl

end PaymentRelay
