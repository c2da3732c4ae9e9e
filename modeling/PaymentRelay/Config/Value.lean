import PaymentRelay.Http.Numeral
import PaymentRelay.Bytes.Utf8
import PaymentRelay.Number.Binary64

/-!
# Values of settings

A setting is given as a text, and what the text looks like decides what it is, whatever the setting
wants: a truth value, a whole number, a binary fraction, or else the text itself. Only then is it
turned into what the setting wants. So a host named `1e3` is the host `1000`, and a port of `8080.5`
is the port 8081.
-/

namespace PaymentRelay.Config

/-- What a text was taken for. -/
inductive Value where
  | truth (b : Bool)
  | whole (n : Int)
  | fraction (x : Binary64)
  | text (s : String)
deriving DecidableEq, Repr

namespace Value

/-! ## Taking a text for a value -/

/-- A sign in front, and what follows it: minus, or plus or none. -/
def signed (bs : Bytes) : Bool × Bytes :=
  match bs with
  | 0x2D :: rest => (true, rest)
  | 0x2B :: rest => (false, rest)
  | rest => (false, rest)

/-- One more than the greatest whole number of 64 bits with a sign. -/
def limit63 : Nat := 9223372036854775808

/-- A whole number of 64 bits with its sign. -/
def whole? (bs : Bytes) : Option Int :=
  let (negative, digits) := signed bs
  match Numeral.read? (limit63 + 1) digits with
  | some n =>
    if negative then some (-(n : Int)) else if n < limit63 then some n else none
  | none => none

/-- The words for what is no finite number. -/
def word? (negative : Bool) (bs : Bytes) : Option Binary64 :=
  if bs.lower = utf8 "inf" ∨ bs.lower = utf8 "infinity" then some (.infinite negative)
  else if bs.lower = utf8 "nan" then some .notANumber
  else none

def digitsValue (digits : Bytes) : Nat := digits.foldl (fun n b ↦ n * 10 + (b.toNat - 0x30)) 0

/-- The exponent of a fraction, its mark included; zero where nothing is left. -/
def exponent? (bs : Bytes) : Option Int :=
  match bs with
  | [] => some 0
  | mark :: rest =>
    let (negative, digits) := signed rest
    if (mark = 0x65 ∨ mark = 0x45) ∧ !digits.isEmpty ∧ digits.all Octet.isDigit then
      some (if negative then -(digitsValue digits : Int) else digitsValue digits)
    else none

/-- The binary fraction nearest to `digits · 10^exponent`. Numbers of a size that no finite value
comes near are not worked out. -/
def nearest (negative : Bool) (digits : Nat) (exponent : Int) : Binary64 :=
  let size := (Numeral.ofNat digits).length + exponent
  if digits = 0 ∨ size < -400 then .finite negative 0 Binary64.leastExponent
  else if size > 400 then .infinite negative
  else .ofDecimal negative digits exponent

/-- A number with a point or an exponent, or a word. -/
def fraction? (bs : Bytes) : Option Binary64 :=
  let (negative, bs) := signed bs
  let whole := bs.takeWhile Octet.isDigit
  let rest := bs.dropWhile Octet.isDigit
  let (part, rest) := match rest with
    | 0x2E :: rest => (rest.takeWhile Octet.isDigit, rest.dropWhile Octet.isDigit)
    | rest => ([], rest)
  if whole.isEmpty && part.isEmpty then word? negative bs
  else
    (exponent? rest).map fun exponent ↦
      nearest negative (digitsValue (whole ++ part)) (exponent - part.length)

/-- What a text is taken for. -/
def ofText (s : String) : Value :=
  let bs := utf8 s
  if bs.lower = utf8 "true" then .truth true
  else if bs.lower = utf8 "false" then .truth false
  else
    match whole? bs with
    | some n => .whole n
    | none =>
      match fraction? bs with
      | some x => .fraction x
      | none => .text s

/-! ## Turning a value into what is wanted -/

def isYes (s : String) : Bool := [utf8 "true", utf8 "on", utf8 "yes"].contains (utf8 s).lower

def isNo (s : String) : Bool := [utf8 "false", utf8 "off", utf8 "no"].contains (utf8 s).lower

/-- The digits of a positive finite value, without an exponent. -/
def positional (digits : Nat) (power : Int) : Bytes :=
  let ds := Numeral.ofNat digits
  if 0 ≤ power then ds ++ List.replicate power.toNat 0x30
  else
    let places := power.natAbs
    let padded := List.replicate (places + 1 - ds.length) 0x30 ++ ds
    padded.take (padded.length - places) ++ 0x2E :: padded.drop (padded.length - places)

/-- The text of a binary fraction: the fewest digits that read back, without an exponent. -/
def fractionText : Binary64 → String
  | .notANumber => "NaN"
  | .infinite negative => if negative then "-inf" else "inf"
  | .finite negative significand exponent =>
    let digits :=
      if significand = 0 then utf8 "0"
      else let (k, power) := Binary64.shortest significand exponent; positional k power
    (if negative then "-" else "") ++ digits.toText

def toText : Value → String
  | .truth b => if b then "true" else "false"
  | .whole n => toString n
  | .fraction x => fractionText x
  | .text s => s

/-- The value as a natural number below 2⁶⁴. Fractions are rounded, a half away from zero, and stop
at the bounds. -/
def toCount? : Value → Option Nat
  | .truth b => some (if b then 1 else 0)
  | .whole n => if 0 ≤ n then some n.toNat else none
  | .fraction x =>
    match x with
    | .notANumber => some 0
    | .infinite negative => some (if negative then 0 else Numeral.limit64 - 1)
    | .finite negative significand exponent =>
      some (if negative then 0
        else min (Binary64.nearestNat significand exponent) (Numeral.limit64 - 1))
  | .text s => if isYes s then some 1 else if isNo s then some 0 else none

def toPort? (v : Value) : Option Nat := v.toCount?.filter (· < 65536)

/-- The value as a truth value: a number is true unless it is zero. -/
def toTruth? : Value → Option Bool
  | .truth b => some b
  | .whole n => some (n ≠ 0)
  | .fraction (.finite _ significand _) => some (significand ≠ 0)
  | .fraction _ => some true
  | .text s => if isYes s then some true else if isNo s then some false else none

end Value

end PaymentRelay.Config
