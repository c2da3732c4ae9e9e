import PaymentRelay.Bytes.Basic

/-!
# Decimal numerals on the wire

Lengths are written as the shortest decimal numeral and read back with any number of leading zeros.
The reader is bounded: it gives up at the digit that carries it to the limit, so it never holds a
number the limit excludes, however long the numeral.

An encoder has a buffer of twenty octets for the digits of a length. It fills the buffer from its
right end, the last digit first, and what it sends are the octets from the first digit on. These are
the digits of the length wherever there is room for them, as there is for every length of 64 bits.
-/

namespace PaymentRelay.Numeral

/-- One more than the greatest length that can be told: the number of values that 64 bits have. -/
def limit64 : Nat := 18446744073709551616

/-- The decimal digits of a number, without leading zeros. -/
def ofNat (n : Nat) : Bytes := (Nat.toDigits 10 n).map fun c ↦ c.toNat.toUInt8

/-- Writes the digits of a number before the position `start` of a buffer, and gives what the buffer
holds from the first digit on: `none` if there are more digits than places. -/
def writeBefore {room : Nat} (dst : Vector UInt8 room) (n : Nat) :
    (start : Nat) → start ≤ room → Option Bytes
  | 0, _ => none
  | start + 1, within =>
    let dst := dst.set start (0x30 + (n % 10).toUInt8) within
    if n / 10 = 0 then some (dst.toList.drop start)
    else writeBefore dst (n / 10) start (Nat.le_of_succ_le within)

/-- The digits of a number, as an encoder writes them into its buffer. -/
def write? (dst : Vector UInt8 20) (n : Nat) : Option Bytes := writeBefore dst n 20 (Nat.le_refl 20)

/-- Reads on from the value `acc`: `none` at an octet that is no digit and once the value is not
below `limit`. -/
def readFrom (limit acc : Nat) : Bytes → Option Nat
  | [] => some acc
  | b :: bs =>
    match Octet.digit? b with
    | none => none
    | some d => if acc * 10 + d < limit then readFrom limit (acc * 10 + d) bs else none

/-- The value of a non-empty run of digits, if it is below `limit`. -/
def read? (limit : Nat) (bs : Bytes) : Option Nat :=
  if bs.isEmpty then none else readFrom limit 0 bs

end PaymentRelay.Numeral
