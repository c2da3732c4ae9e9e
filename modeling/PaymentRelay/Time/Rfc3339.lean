import PaymentRelay.Http.Numeral
import PaymentRelay.Number.Power
import PaymentRelay.Time.Civil
import PaymentRelay.Time.Instant

/-!
# Timestamps

Instants as text: `2025-07-15T12:34:56.789Z`. Written, an instant is always in universal time.
Read, it may name any offset below a day, may have `t` or a space for `T` and `z` for `Z`, any
number of fraction digits, of which nine count, and a sixtieth second.

The reader goes from left to right and stops at the first thing wrong. Two things are looked at
late: the ranges of hour, minute and second after the fraction, and the size of an offset after all
else.
-/

namespace PaymentRelay.Rfc3339

/-- Why a text is no timestamp. -/
inductive Fault where
  /-- It ends too early. -/
  | tooShort
  /-- Something else should stand where the reader stopped. -/
  | invalid
  /-- A number is too large for its place. -/
  | outOfRange
  /-- Something follows. -/
  | trailing
deriving DecidableEq, Repr

def Fault.message : Fault → String
  | .tooShort => "premature end of input"
  | .invalid => "input contains invalid characters"
  | .outOfRange => "input is out of range"
  | .trailing => "trailing input"

def daySeconds : Nat := 86400

/-! ## Reading -/

/-- A step of the reader: a value and the octets after it. -/
abbrev Step (α : Type) := Bytes → Except Fault (α × Bytes)

def digits (n : Nat) : Step Nat := fun bs ↦
  if (bs.take n).length < n then .error .tooShort
  else
    match Numeral.read? (pow10 n) (bs.take n) with
    | some value => .ok (value, bs.drop n)
    | none => .error .invalid

def oneOf (allowed : Bytes) : Step Unit
  | [] => .error .tooShort
  | b :: bs => if allowed.contains b then .ok ((), bs) else .error .invalid

def date : Step Civil.Date := fun bs ↦ do
  let (year, bs) ← digits 4 bs
  let ((), bs) ← oneOf [0x2D] bs
  let (month, bs) ← digits 2 bs
  let ((), bs) ← oneOf [0x2D] bs
  let (day, bs) ← digits 2 bs
  let d : Civil.Date := ⟨year, month, day⟩
  if d.valid then .ok (d, bs) else .error .outOfRange

/-- Hour, minute and second, of any size. -/
def clock : Step (Nat × Nat × Nat) := fun bs ↦ do
  let (hour, bs) ← digits 2 bs
  let ((), bs) ← oneOf [0x3A] bs
  let (minute, bs) ← digits 2 bs
  let ((), bs) ← oneOf [0x3A] bs
  let (second, bs) ← digits 2 bs
  return ((hour, minute, second), bs)

/-- Nanoseconds after a point, or none where no point stands. Digits after the ninth are passed
over. -/
def fraction : Step Nat
  | 0x2E :: bs =>
    let kept := (bs.takeWhile Octet.isDigit).take 9
    match Numeral.read? (pow10 9) kept with
    | some value => .ok (value * pow10 (9 - kept.length), bs.dropWhile Octet.isDigit)
    | none => .error (if bs.isEmpty then .tooShort else .invalid)
  | bs => .ok (0, bs)

/-- The sign of an offset: a plus, a hyphen or a minus sign. -/
def sign : Step Int
  | 0x2B :: bs => .ok (1, bs)
  | 0x2D :: bs => .ok (-1, bs)
  | 0xE2 :: 0x88 :: 0x92 :: bs => .ok (-1, bs)
  | [] => .error .tooShort
  | _ => .error .invalid

def offsetMinutes : Step Nat := fun bs ↦ do
  let (minutes, bs) ← digits 2 bs
  if minutes ≥ 60 then .error .outOfRange else .ok (minutes, bs)

/-- Seconds by which local time is ahead of universal time, a day or more included. -/
def offset : Step Int := fun bs ↦
  match bs with
  | 0x5A :: bs => .ok (0, bs)
  | 0x7A :: bs => .ok (0, bs)
  | bs => do
    let (direction, bs) ← sign bs
    let (hours, bs) ← digits 2 bs
    let ((), bs) ← oneOf [0x3A] bs
    let (minutes, bs) ← offsetMinutes bs
    return (direction * (hours * 3600 + minutes * 60 : Nat), bs)

/-- The instant of a date and a clock reading at an offset. -/
def instantOf (d : Civil.Date) (hour minute second nanos : Nat) (ahead : Int) : Instant :=
  let leap := second = 60
  let reading := hour * 3600 + minute * 60 + (if leap then 59 else second)
  let local_ := d.toDays * daySeconds + (reading : Nat)
  ⟨local_ - ahead, if leap then nanos + Instant.nanosPerSecond else nanos⟩

/-- Reads a timestamp, whose second may be the sixtieth. Fewer octets than the shortest form up to
its seconds are not looked at. -/
def read (bs : Bytes) : Except Fault Instant := do
  if bs.length < 19 then throw .tooShort
  let (d, bs) ← date bs
  let ((), bs) ← oneOf [0x54, 0x74, 0x20] bs
  let ((hour, minute, second), bs) ← clock bs
  let (nanos, bs) ← fraction bs
  if hour ≥ 24 || minute ≥ 60 || second > 60 then throw .outOfRange
  let (ahead, bs) ← offset bs
  if !bs.isEmpty then throw .trailing
  if ahead.natAbs ≥ daySeconds then throw .outOfRange
  return instantOf d hour minute second nanos ahead

/-! ## Writing -/

def padded (width n : Nat) : Bytes :=
  let digits := Numeral.ofNat n
  List.replicate (width - digits.length) 0x30 ++ digits

/-- A year: four digits, or a sign and at least four. -/
def writeYear (year : Int) : Bytes :=
  if 0 ≤ year ∧ year ≤ 9999 then padded 4 year.toNat
  else (if year < 0 then 0x2D else 0x2B) :: padded 4 year.natAbs

/-- An instant in universal time, with the fraction as given. -/
def writeWith (fractionOf : Nat → Bytes) (t : Instant) : Bytes :=
  let day := Civil.ofDays (t.seconds / daySeconds)
  let second := (t.seconds % daySeconds).toNat
  let leap := t.nanos ≥ Instant.nanosPerSecond
  writeYear day.year ++ 0x2D :: padded 2 day.month ++ 0x2D :: padded 2 day.day ++
    0x54 :: padded 2 (second / 3600) ++ 0x3A :: padded 2 (second / 60 % 60) ++
    0x3A :: padded 2 (second % 60 + if leap then 1 else 0) ++
    fractionOf (t.nanos % Instant.nanosPerSecond) ++ [0x5A]

/-- Milliseconds, always. -/
def writeMillis : Instant → Bytes :=
  writeWith fun nanos ↦ 0x2E :: padded 3 (nanos / 1000000)

/-- The fewest of no, three, six and nine fraction digits that lose nothing. -/
def write : Instant → Bytes :=
  writeWith fun nanos ↦
    if nanos = 0 then []
    else if nanos % 1000000 = 0 then 0x2E :: padded 3 (nanos / 1000000)
    else if nanos % 1000 = 0 then 0x2E :: padded 6 (nanos / 1000)
    else 0x2E :: padded 9 nanos

end PaymentRelay.Rfc3339
