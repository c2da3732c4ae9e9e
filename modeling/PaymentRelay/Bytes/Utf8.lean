import PaymentRelay.Bytes.Basic

/-!
# Reading UTF-8

A decoder that looks at one octet at a time. Between octets it is either at a boundary or inside a
character whose remaining octets it counts; that character's value so far is its whole memory, so
the decoder is structural in the octets and a cut anywhere leaves a state to go on from.

Two readings share the machine. The strict one stops at the first fault and says where the faulty
sequence begins and how long it is; the lenient one writes U+FFFD for every faulty sequence, which
is the longest start of a character that could not be completed.
-/

namespace PaymentRelay.Utf8

/-- A character some of whose octets have arrived. -/
structure Unfinished where
  /-- The bits read so far. -/
  code : Nat
  /-- Octets read so far, at least one. -/
  seen : Nat
  /-- Octets still to come, at least one. -/
  more : Nat
  /-- Least octet that may come next. -/
  low : UInt8
  /-- Greatest octet that may come next. -/
  high : UInt8
deriving DecidableEq, Repr

/-- What an octet means at a character boundary. -/
inductive Lead where
  /-- A character of one octet. -/
  | whole (c : Char)
  /-- The first octet of a longer character. -/
  | begins (u : Unfinished)
  /-- No character starts so. -/
  | invalid
deriving DecidableEq, Repr

/-- Reads an octet at a boundary. The bounds on the second octet keep out overlong forms,
surrogates and values past U+10FFFF. -/
def lead (b : UInt8) : Lead :=
  if b < 0x80 then .whole (Char.ofNat b.toNat)
  else if b < 0xC2 then .invalid
  else if b < 0xE0 then .begins ⟨b.toNat - 0xC0, 1, 1, 0x80, 0xBF⟩
  else if b = 0xE0 then .begins ⟨0, 1, 2, 0xA0, 0xBF⟩
  else if b = 0xED then .begins ⟨0xD, 1, 2, 0x80, 0x9F⟩
  else if b < 0xF0 then .begins ⟨b.toNat - 0xE0, 1, 2, 0x80, 0xBF⟩
  else if b = 0xF0 then .begins ⟨0, 1, 3, 0x90, 0xBF⟩
  else if b < 0xF4 then .begins ⟨b.toNat - 0xF0, 1, 3, 0x80, 0xBF⟩
  else if b = 0xF4 then .begins ⟨4, 1, 3, 0x80, 0x8F⟩
  else .invalid

/-- Adds an octet to an unfinished character: the character, or what it has become; `none` if
the octet cannot come here. -/
def Unfinished.push (u : Unfinished) (b : UInt8) : Option (Char ⊕ Unfinished) :=
  if b < u.low || u.high < b then none
  else
    let code := u.code * 0x40 + (b.toNat - 0x80)
    if u.more ≤ 1 then some (.inl (Char.ofNat code))
    else some (.inr ⟨code, u.seen + 1, u.more - 1, 0x80, 0xBF⟩)

/-- Why octets are no UTF-8. -/
inductive Fault where
  /-- A sequence of `length` octets at `start` begins no character. -/
  | invalid (start length : Nat)
  /-- The octets end inside the character that begins at `start`. -/
  | incomplete (start : Nat)
deriving DecidableEq, Repr

def Fault.message : Fault → String
  | .invalid start length => s!"invalid utf-8 sequence of {length} bytes from index {start}"
  | .incomplete start => s!"incomplete utf-8 byte sequence from index {start}"

/-! ## The strict reading -/

/-- Decodes from a state: `done` are the characters read, last first, and `start` is where the
character under way began. -/
def decodeFrom (done : List Char) (start : Nat) :
    Option Unfinished → Bytes → Except Fault (List Char)
  | none, [] => .ok done.reverse
  | some _, [] => .error (.incomplete start)
  | none, b :: bs =>
    match lead b with
    | .whole c => decodeFrom (c :: done) (start + 1) none bs
    | .begins u => decodeFrom done start (some u) bs
    | .invalid => .error (.invalid start 1)
  | some u, b :: bs =>
    match u.push b with
    | some (.inl c) => decodeFrom (c :: done) (start + u.seen + 1) none bs
    | some (.inr v) => decodeFrom done start (some v) bs
    | none => .error (.invalid start u.seen)

/-- The text that the octets spell, or the first fault. -/
def decode (bs : Bytes) : Except Fault String := (decodeFrom [] 0 none bs).map String.ofList

/-- The text that the octets spell, if they are UTF-8. -/
def decode? (bs : Bytes) : Option String := (decode bs).toOption

/-! ## The lenient reading -/

/-- Stands for a sequence that is no character. -/
def replacement : Char := '\uFFFD'

/-- Decodes from a state, replacing faulty sequences. An octet that breaks a character off is read
again as the start of the next. -/
def lenientFrom (done : List Char) : Option Unfinished → Bytes → List Char
  | none, [] => done.reverse
  | some _, [] => (replacement :: done).reverse
  | none, b :: bs =>
    match lead b with
    | .whole c => lenientFrom (c :: done) none bs
    | .begins u => lenientFrom done (some u) bs
    | .invalid => lenientFrom (replacement :: done) none bs
  | some u, b :: bs =>
    match u.push b with
    | some (.inl c) => lenientFrom (c :: done) none bs
    | some (.inr v) => lenientFrom done (some v) bs
    | none =>
      match lead b with
      | .whole c => lenientFrom (c :: replacement :: done) none bs
      | .begins v => lenientFrom (replacement :: done) (some v) bs
      | .invalid => lenientFrom (replacement :: replacement :: done) none bs

/-- The text that the octets spell, with U+FFFD for every faulty sequence. -/
def decodeLenient (bs : Bytes) : String := String.ofList (lenientFrom [] none bs)

end PaymentRelay.Utf8
