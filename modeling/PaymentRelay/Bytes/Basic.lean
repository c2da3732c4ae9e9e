/-!
# Octets

Everything that crosses a socket here is a list of octets. A list, and not a packed array, because
every reader below consumes its input from the front and every statement about framing cuts a
stream in two.

The UTF-8 encoder is written with quotients and remainders, not with shifts and masks, so that the
decoder's inverse law is a fact of linear arithmetic.
-/

namespace PaymentRelay

/-- A run of octets: a message, a buffer, or a part of one. -/
abbrev Bytes := List UInt8

/-- The UTF-8 octets of one character, most significant bits first. -/
def encodeChar (c : Char) : Bytes :=
  let n := c.toNat
  if n < 0x80 then [n.toUInt8]
  else if n < 0x800 then [(0xC0 + n / 0x40).toUInt8, (0x80 + n % 0x40).toUInt8]
  else if n < 0x10000 then
    [(0xE0 + n / 0x1000).toUInt8, (0x80 + n / 0x40 % 0x40).toUInt8, (0x80 + n % 0x40).toUInt8]
  else
    [(0xF0 + n / 0x40000).toUInt8, (0x80 + n / 0x1000 % 0x40).toUInt8,
      (0x80 + n / 0x40 % 0x40).toUInt8, (0x80 + n % 0x40).toUInt8]

/-- The UTF-8 octets of a text. -/
def utf8 (s : String) : Bytes := s.toList.flatMap encodeChar

/-! ## Octets with a meaning of their own -/

namespace Octet

/-- Line feed, which ends a header line. -/
def lf : UInt8 := 0x0A

/-- Carriage return, which may precede a line feed. -/
def cr : UInt8 := 0x0D

/-- The space, which separates the parts of a first line. -/
def space : UInt8 := 0x20

def isDigit (b : UInt8) : Bool := 0x30 ≤ b && b ≤ 0x39

def digit? (b : UInt8) : Option Nat := if isDigit b then some (b.toNat - 0x30) else none

/-- ASCII whitespace: tab, line feed, form feed, carriage return, space. -/
def isBlank (b : UInt8) : Bool := b == 0x20 || b == 0x09 || b == 0x0A || b == 0x0C || b == 0x0D

/-- The ASCII lower case of an octet; octets that are no ASCII capital stay. -/
def lower (b : UInt8) : UInt8 := if 0x41 ≤ b && b ≤ 0x5A then b + 0x20 else b

/-- An octet that may stand in a request method. -/
def isToken (b : UInt8) : Bool :=
  isDigit b || (0x41 ≤ b && b ≤ 0x5A) || (0x61 ≤ b && b ≤ 0x7A) ||
    [0x21, 0x23, 0x24, 0x25, 0x26, 0x27, 0x2A, 0x2B, 0x2D, 0x2E, 0x5E, 0x5F, 0x60, 0x7C,
      0x7E].contains b

end Octet

namespace Bytes

/-- The octets, each as the character of its number: what they spell, if they are ASCII. -/
def toText (bs : Bytes) : String := String.ofList (bs.map fun b ↦ Char.ofNat b.toNat)

/-- The text with every octet in ASCII lower case. -/
def lower (bs : Bytes) : Bytes := bs.map Octet.lower

/-- The octets without the ASCII whitespace at either end. -/
def trim (bs : Bytes) : Bytes :=
  ((bs.dropWhile Octet.isBlank).reverse.dropWhile Octet.isBlank).reverse

/-- The octets without one carriage return at the end. -/
def stripCr (bs : Bytes) : Bytes := if bs.getLast? = some Octet.cr then bs.dropLast else bs

/-- The pieces between separators, with `word` the reversed piece under way. -/
def splitFrom (separator : UInt8) (word : Bytes) : Bytes → List Bytes
  | [] => [word.reverse]
  | b :: bs =>
    if b = separator then word.reverse :: splitFrom separator [] bs
    else splitFrom separator (b :: word) bs

/-- The pieces between separators: always one more than there are separators. -/
def split (separator : UInt8) (bs : Bytes) : List Bytes := splitFrom separator [] bs

/-- Position of the first `needle`, where the octets given start at position `i`. -/
def findFrom (needle : Bytes) (i : Nat) : Bytes → Option Nat
  | [] => none
  | b :: bs => if needle.isPrefixOf (b :: bs) then some i else findFrom needle (i + 1) bs

/-- Position of the first `needle` in `hay`; an empty needle is nowhere. -/
def find? (hay needle : Bytes) : Option Nat :=
  if needle.isEmpty then none else findFrom needle 0 hay

theorem findFrom_add_le {needle : Bytes} {i j : Nat} :
    ∀ {bs : Bytes}, findFrom needle i bs = some j → j + needle.length ≤ i + bs.length
  | [], h => by simp [findFrom] at h
  | b :: bs, h => by
    unfold findFrom at h
    split at h
    · next found =>
      have := (List.isPrefixOf_iff_prefix.mp found).length_le
      cases h
      omega
    · have := findFrom_add_le h
      simp only [List.length_cons]
      omega

theorem find?_add_le {hay needle : Bytes} {i : Nat} (h : find? hay needle = some i) :
    i + needle.length ≤ hay.length := by
  unfold find? at h
  split at h
  · cases h
  · have := findFrom_add_le h
    omega

end Bytes

end PaymentRelay
