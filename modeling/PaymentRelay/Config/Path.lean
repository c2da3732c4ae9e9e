import PaymentRelay.Config.Value

/-!
# Names of settings

A variable sets the setting whose name it has, in whatever case. A name may also lead further: a
member behind a point or an item between brackets is a part of what stands before it. Settings have
no parts, so such a name spoils the setting that it begins with; but a name that breaks off in the
middle leads nowhere and means nothing.
-/

namespace PaymentRelay.Config

/-- Where the reader of a name stands. -/
inductive NamePlace where
  /-- A name must begin. -/
  | before
  /-- Inside a name. -/
  | name
  /-- Between brackets; these characters have been read, the last first. -/
  | index (read : List Char)
  /-- Behind a closing bracket. -/
  | behind
deriving DecidableEq, Repr

namespace NamePlace

def isNameChar (c : Char) : Bool := c.isAlphanum || c == '_' || c == '-'

/-- A blank that may stand around the place of an item: a space or a tab. -/
def isMargin (c : Char) : Bool := c == ' ' || c == '\t'

/-- The place of an item: a whole number of 64 bits without a plus, perhaps with spaces and tabs
around it. -/
def isIndex (cs : List Char) : Bool :=
  let inner := ((cs.dropWhile isMargin).reverse.dropWhile isMargin).reverse
  let text := utf8 (String.ofList inner)
  text.head? ≠ some 0x2B && (Value.whole? text).isSome

/-- A character behind which something new begins. -/
def begin (c : Char) : Option NamePlace :=
  if c = '.' then some .before else if c = '[' then some (.index []) else none

/-- Reads a character; `none` if it cannot stand there. -/
def step (place : NamePlace) (c : Char) : Option NamePlace :=
  match place with
  | .before => if isNameChar c then some .name else none
  | .name => if isNameChar c then some .name else begin c
  | .index read =>
    if c ≠ ']' then some (.index (c :: read))
    else if isIndex read.reverse then some .behind
    else none
  | .behind => begin c

/-- A name may end here. -/
def mayEnd : NamePlace → Bool
  | .name | .behind => true
  | .before | .index _ => false

end NamePlace

/-- What a variable's name refers to. -/
inductive Reference where
  /-- What has this name. -/
  | whole (name : String)
  /-- A part of what has this name. -/
  | part (name : String)
deriving DecidableEq, Repr

/-- The name in lower case, where the Kelvin sign is a k. -/
def lowerName (name : String) : String :=
  String.ofList (name.toList.map fun c ↦ if c = '\u212A' then 'k' else c.toLower)

def Reference.ofName (name : String) : Reference :=
  let cs := (lowerName name).toList
  let plain := cs.takeWhile NamePlace.isNameChar
  if plain ≠ cs ∧ ((cs.foldlM NamePlace.step .before).any NamePlace.mayEnd) then
    .part (String.ofList plain)
  else .whole (String.ofList cs)

end PaymentRelay.Config
