import PaymentRelay.Number.Nearest
import PaymentRelay.Number.Power

/-!
# Binary fractions of double width

A finite value is `significand · 2^exponent` with a significand of at most 53 bits and an exponent
of at least -1074. Values are made by exact rounding of a quotient of natural numbers, so reading a
decimal and writing the shortest decimal that reads back both stay within arithmetic on `Nat`.
-/

namespace PaymentRelay

/-- A binary64 value. The significand of a finite value has 53 bits, or fewer with the least
exponent. -/
inductive Binary64 where
  | finite (negative : Bool) (significand : Nat) (exponent : Int)
  | infinite (negative : Bool)
  | notANumber
deriving DecidableEq, Repr

namespace Binary64

def precision : Nat := 53

def leastExponent : Int := -1074

def greatestExponent : Int := 971

/-- `n · 2^e` over `d`, as a quotient of natural numbers. -/
def scaled (n d : Nat) (e : Int) : Nat × Nat :=
  if 0 ≤ e then (n * pow2 e.toNat, d) else (n, d * pow2 e.natAbs)

/-- The value nearest to `n / d`, of two the one with the even significand. The exponent is the one
at which the significand has all its bits, estimated from the lengths of `n` and `d` and corrected
once if the estimate is one too small. -/
def ofQuotient (negative : Bool) (n d : Nat) : Binary64 :=
  if n = 0 then .finite negative 0 leastExponent
  else
    let estimate := max ((n.log2 : Int) - d.log2 - precision) leastExponent
    let roundAt (e : Int) : Nat := let (p, q) := scaled n d (-e); nearestEven p q
    let floorAt (e : Int) : Nat := let (p, q) := scaled n d (-e); p / q
    let exponent := if floorAt estimate < pow2 precision then estimate else estimate + 1
    let significand := roundAt exponent
    let (significand, exponent) :=
      if significand = pow2 precision then (pow2 (precision - 1), exponent + 1)
      else (significand, exponent)
    if exponent > greatestExponent then .infinite negative
    else .finite negative significand exponent

/-- The value nearest to `digits · 10^exponent`. -/
def ofDecimal (negative : Bool) (digits : Nat) (exponent : Int) : Binary64 :=
  if 0 ≤ exponent then ofQuotient negative (digits * pow10 exponent.toNat) 1
  else ofQuotient negative digits (pow10 exponent.natAbs)

/-- The product of two values without sign. -/
def mulMagnitudes : Binary64 → Binary64 → Binary64
  | .finite _ m e, .finite _ n f =>
    let (p, q) := scaled (m * n) 1 (e + f)
    ofQuotient false p q
  | _, _ => .infinite false

/-- The value is neither infinite nor no number. -/
def isFinite : Binary64 → Bool
  | .finite .. => true
  | _ => false

/-- The integer nearest to the magnitude of a finite value; a half goes up. -/
def nearestNat (significand : Nat) (exponent : Int) : Nat :=
  if 0 ≤ exponent then significand * pow2 exponent.toNat
  else (2 * significand + pow2 exponent.natAbs) / pow2 (exponent.natAbs + 1)

/-! ## The shortest decimal -/

/-- The quotient `n / d` reads as the value without sign. -/
def readsAs (value : Binary64) (n d : Nat) : Bool := ofQuotient false n d = value

/-- Of the two neighbours of the value `n / d` on the grid of multiples of `10^power`, the nearer
one that reads as the value, as a multiple. -/
def onGrid (value : Binary64) (n d : Nat) (power : Int) : Option Nat :=
  let (p, q) := if 0 ≤ power then (n, d * pow10 power.toNat) else (n * pow10 power.natAbs, d)
  let below := p / q
  let reads (k : Nat) : Bool :=
    if 0 ≤ power then readsAs value (k * pow10 power.toNat) 1
    else readsAs value k (pow10 power.natAbs)
  let lowFirst := 2 * (p % q) < q ∨ (2 * (p % q) = q ∧ below % 2 = 0)
  let (near, far) := if lowFirst then (below, below + 1) else (below + 1, below)
  if reads near then some near else if reads far then some far else none

/-- Tries grids from the coarsest on, at most `tries` of them. -/
def shortestFrom (value : Binary64) (n d : Nat) (power : Int) : Nat → Nat × Int
  | 0 => (0, 0)
  | tries + 1 =>
    match onGrid value n d power with
    | some k => (k, power)
    | none => shortestFrom value n d (power - 1) tries

/-- The decimal exponent at which `n / d` has one digit, or one less. -/
def leadingPower (n d : Nat) : Int :=
  (((n.log2 : Int) - d.log2) * 1233 / 4096)

/-- Digits and power of ten of the shortest decimal that reads back as a positive finite value. -/
def shortest (significand : Nat) (exponent : Int) : Nat × Int :=
  let value := Binary64.finite false significand exponent
  let (n, d) := scaled significand 1 exponent
  shortestFrom value n d (leadingPower n d + 2) 24

end Binary64

end PaymentRelay
