import PaymentRelay.Json.Basic
import PaymentRelay.Decimal.Read
import PaymentRelay.Number.Binary64

/-!
# Numbers

A number is kept as its digits. What is made of them depends on who asks: an amount takes all of
them, a count takes whole numbers below 2⁶⁴ only.

A count also looks at numbers it does not want. One with a fraction, an exponent or more digits than
a count can have is read as a binary fraction first, and if it lies beyond all binary fractions the
text counts as malformed rather than as holding the wrong value.
-/

namespace PaymentRelay.Json

/-- A number as it is written. -/
structure Number where
  /-- It has a minus sign. -/
  negative : Bool
  /-- The digits before the point. -/
  whole : Bytes
  /-- The digits after the point, if there is one. -/
  fraction : Bytes
  /-- The sign and the digits of the exponent, if there is one. -/
  exponent : Option (Bool × Bytes)
deriving DecidableEq, Repr

namespace Number

/-- The digits in front, at least one, and the rest. -/
def digits (bs : Bytes) : Except Fault (Bytes × Bytes) :=
  match bs with
  | [] => .error .truncated
  | b :: _ =>
    if Octet.isDigit b then .ok (bs.takeWhile Octet.isDigit, bs.dropWhile Octet.isDigit)
    else .error .malformed

/-- The digits before the point: a zero stands alone. -/
def whole? (bs : Bytes) : Except Fault (Bytes × Bytes) := do
  let (ds, rest) ← digits bs
  if ds.head? = some 0x30 ∧ ds.length > 1 then .error .malformed else .ok (ds, rest)

/-- The digits after a point, if a point comes. -/
def fraction? : Bytes → Except Fault (Bytes × Bytes)
  | 0x2E :: bs => digits bs
  | bs => .ok ([], bs)

/-- The sign and the digits of an exponent, if one comes. -/
def exponent? (bs : Bytes) : Except Fault (Option (Bool × Bytes) × Bytes) :=
  match bs with
  | [] => .ok (none, [])
  | b :: rest =>
    if Decimal.isExponentMark b then do
      let negative := rest.head? = some 0x2D
      let (ds, after) ← digits (if negative ∨ rest.head? = some 0x2B then rest.drop 1 else rest)
      .ok (some (negative, ds), after)
    else .ok (none, bs)

/-- Reads a number that starts here, with its sign or its first digit. -/
def read : Reader Number := fun bs ↦ do
  let negative := bs.head? = some 0x2D
  let (whole, bs) ← whole? (if negative then bs.drop 1 else bs)
  let (fraction, bs) ← fraction? bs
  let (exponent, bs) ← exponent? bs
  .ok (⟨negative, whole, fraction, exponent⟩, bs)

/-- A number starts with this octet. -/
def starts (b : UInt8) : Bool := b == 0x2D || Octet.isDigit b

/-- The number as text, a plus sign of the exponent left out. -/
def text (n : Number) : Bytes :=
  (if n.negative then [0x2D] else []) ++ n.whole ++
  (if n.fraction.isEmpty then [] else 0x2E :: n.fraction) ++
  (match n.exponent with
    | none => []
    | some (negative, ds) => 0x65 :: (if negative then 0x2D :: ds else ds))

/-! ## Counts -/

/-- The longest start of the digits that is below 2⁶⁴, continuing from a value, and how many digits
are left over. -/
def leading (value : Nat) : Bytes → Nat × Nat
  | [] => (value, 0)
  | b :: bs =>
    let next := value * 10 + (b.toNat - 0x30)
    if next < Numeral.limit64 then leading next bs else (value, bs.length + 1)

/-- One more than the greatest exponent that is told apart from others. -/
def exponentLimit : Nat := 2147483648

/-- The number lies beyond all binary fractions: read from its leading digits and the power of ten
that the others amount to. -/
def isBoundless (n : Number) : Bool :=
  let (whole, dropped) := leading 0 n.whole
  let (digits, surplus) := leading whole n.fraction
  let shift : Int := dropped - (n.fraction.length - surplus : Nat)
  let power : Int :=
    match n.exponent with
    | none => shift
    | some (negative, ds) =>
      match Numeral.read? exponentLimit ds with
      | some e => if negative then shift - e else shift + e
      | none => if negative then -exponentLimit else exponentLimit
  digits ≠ 0 && power ≥ 0 &&
    (power > 308 ||
      !(Binary64.mulMagnitudes (.ofDecimal false digits 0) (.ofDecimal false 1 power)).isFinite)

/-- The number as a count. -/
def toCount (n : Number) : Except Fault Nat :=
  if n.negative = false ∧ n.fraction = [] ∧ n.exponent = none then
    match Numeral.read? Numeral.limit64 n.whole with
    | some count => .ok count
    | none => .error (if n.isBoundless then .malformed else .unfit)
  else .error (if n.isBoundless then .malformed else .unfit)

end Number

end PaymentRelay.Json
