import PaymentRelay.Bytes.Utf8

/-!
# Query strings

A query string is a list of pairs, each `name=value`, between ampersands. A plus sign stands for a
space and a percent sign with two hexadecimal digits for an octet; a percent sign without them
stands for itself. Empty pieces between ampersands are no pairs, a piece without an equals sign is a
name with an empty value, and octets that are not UTF-8 are read leniently: reading never fails.
-/

namespace PaymentRelay.Form

def hex? (b : UInt8) : Option UInt8 :=
  if 0x30 ≤ b && b ≤ 0x39 then some (b - 0x30)
  else if 0x61 ≤ b && b ≤ 0x66 then some (b - 0x57)
  else if 0x41 ≤ b && b ≤ 0x46 then some (b - 0x37)
  else none

/-- The octets that an encoded piece stands for, added to `done` in reverse. -/
def unescapeFrom (done : Bytes) : Bytes → Bytes
  | [] => done.reverse
  | 0x25 :: a :: b :: rest =>
    match hex? a, hex? b with
    | some high, some low => unescapeFrom ((high * 16 + low) :: done) rest
    | _, _ => unescapeFrom (0x25 :: done) (a :: b :: rest)
  | b :: rest => unescapeFrom ((if b = 0x2B then 0x20 else b) :: done) rest

/-- The text that an encoded piece stands for. -/
def unescape (piece : Bytes) : String := Utf8.decodeLenient (unescapeFrom [] piece)

/-- The pair that a piece between ampersands stands for. -/
def pairOf (piece : Bytes) : String × String :=
  (unescape (piece.takeWhile (· ≠ 0x3D)), unescape ((piece.dropWhile (· ≠ 0x3D)).drop 1))

/-- The pairs of a query string, in order. -/
def pairs (query : Bytes) : List (String × String) :=
  ((Bytes.split 0x26 query).filter (!·.isEmpty)).map pairOf

/-- An octet that stands for itself in an encoded piece. -/
def isPlain (b : UInt8) : Bool :=
  (0x30 ≤ b && b ≤ 0x39) || (0x41 ≤ b && b ≤ 0x5A) || (0x61 ≤ b && b ≤ 0x7A) ||
    b == 0x2A || b == 0x2D || b == 0x2E || b == 0x5F

/-- The upper-case hexadecimal digit of a value below sixteen. -/
def hexDigit (n : UInt8) : UInt8 := if n < 10 then 0x30 + n else 0x37 + n

def escapeOctet (b : UInt8) : Bytes :=
  if isPlain b then [b]
  else if b = 0x20 then [0x2B]
  else [0x25, hexDigit (b / 16), hexDigit (b % 16)]

/-- The encoded form of a text. -/
def escape (s : Bytes) : Bytes := s.flatMap escapeOctet

def write (ps : List (Bytes × Bytes)) : Bytes :=
  [0x26].intercalate (ps.map fun (name, value) ↦ escape name ++ 0x3D :: escape value)

end PaymentRelay.Form
