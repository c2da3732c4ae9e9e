import PaymentRelay.Decimal.Basic
import PaymentRelay.Number.Nearest

/-!
# Reading a decimal

The plain form is a sign, digits with at most one point among them, and underscores between digits.
A fraction may be longer than a decimal can hold: the first digit that does not fit decides whether
the last one kept is rounded up, and what follows it must still be digits and underscores. A whole
part that does not fit is no decimal at all.

If the plain form does not read, the scientific form is tried: a plain number, `e` or `E`, and an
exponent. A negative exponent raises the scale, and digits that it pushes past the greatest scale
are rounded away, a half away from zero; that is where a negative zero comes from. Another exponent
lowers the scale first and multiplies by ten where no scale is left.
-/

namespace PaymentRelay.Decimal

/-- What has been read of a plain number. -/
structure Scan where
  /-- The digits so far. -/
  coeff : Nat
  /-- How many of them stood after the point. -/
  scale : Nat
  /-- The point has been read. -/
  point : Bool
  /-- A digit has been read. -/
  digit : Bool
deriving DecidableEq, Repr

def Scan.start : Scan := ⟨0, 0, false, false⟩

/-- What may follow the last digit that fits. -/
def isSurplus (b : UInt8) : Bool := Octet.isDigit b || b == 0x5F

/-- The digit that decides how `surplus` rounds the coefficient: the one it begins with. Behind
underscores a digit decides only if the coefficient has no room for it. -/
def Scan.deciding (s : Scan) (surplus : Bytes) : Nat :=
  let digit := ((surplus.dropWhile (· == 0x5F)).head?.bind Octet.digit?).getD 0
  if surplus.head? = some 0x5F ∧ s.coeff * 10 + digit < coeffBound then 0 else digit

/-- Rounds at the first digit that does not fit, which `surplus` begins with. A coefficient that
rounding carries to the bound gives up its last digit. -/
def Scan.round (s : Scan) (surplus : Bytes) : Option (Nat × Nat) :=
  if surplus.all isSurplus then
    if s.deciding surplus < 5 then some (s.coeff, s.scale)
    else if s.coeff + 1 < coeffBound then some (s.coeff + 1, s.scale)
    else if s.scale = 0 then none
    else some ((s.coeff + 5) / 10, s.scale - 1)
  else none

/-- Reads the digits of a plain number: coefficient and scale. -/
def Scan.run (s : Scan) : Bytes → Option (Nat × Nat)
  | [] => if s.digit then some (s.coeff, s.scale) else none
  | b :: bs =>
    if s.scale = maxScale then s.round (b :: bs)
    else
      match Octet.digit? b with
      | some d =>
        let next := s.coeff * 10 + d
        if next < coeffBound then
          run ⟨next, if s.point then s.scale + 1 else s.scale, s.point, true⟩ bs
        else if s.point then s.round (b :: bs)
        else none
      | none =>
        if b = 0x2E ∧ !s.point then run { s with point := true } bs
        else if b = 0x5F ∧ s.digit then run s bs
        else none

/-- Reads the plain form. A zero has no sign. -/
def readPlain? (bs : Bytes) : Option Decimal :=
  let negative := bs.head? = some 0x2D
  let digits := if negative ∨ bs.head? = some 0x2B then bs.drop 1 else bs
  match Scan.start.run digits with
  | some (coeff, scale) => make? (negative ∧ coeff ≠ 0) coeff scale
  | none => none

/-- The digits of an exponent, after an optional plus sign. -/
def readExponent? (bs : Bytes) : Option Nat :=
  Numeral.read? 4294967296 (if bs.head? = some 0x2B then bs.drop 1 else bs)

def raise (d : Decimal) (exponent : Nat) : Option Decimal :=
  if exponent ≤ d.scale then make? d.negative d.magnitude (d.scale - exponent)
  else if exponent ≤ maxScale then
    make? d.negative (d.magnitude * pow10 (exponent - d.scale)) 0
  else none

/-- The decimal divided by a power of ten, rounded to the greatest scale; the sign stays, even where
only zeros are left. -/
def lower (d : Decimal) (exponent : Nat) : Option Decimal :=
  if exponent ≤ maxScale then
    let scale := d.scale + exponent
    make? d.negative (nearestUp d.magnitude (pow10 (scale - maxScale))) (min scale maxScale)
  else none

/-- The mark between a number and its exponent. -/
def isExponentMark (b : UInt8) : Bool := b == 0x65 || b == 0x45

/-- Reads the scientific form. -/
def readScientific? (bs : Bytes) : Option Decimal :=
  match bs.dropWhile (!isExponentMark ·) with
  | [] => none
  | _ :: exponent =>
    (readPlain? (bs.takeWhile (!isExponentMark ·))).bind fun d ↦
      if exponent.head? = some 0x2D then (readExponent? (exponent.drop 1)).bind d.lower
      else (readExponent? exponent).bind d.raise

/-- Reads a decimal in either form. -/
def read? (bs : Bytes) : Option Decimal := (readPlain? bs).orElse fun _ ↦ readScientific? bs

end PaymentRelay.Decimal
