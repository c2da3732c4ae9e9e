import PaymentRelay.Bytes.Basic

/-!
# Reading JSON

A reader takes what it reads from the front of the octets and returns the rest. Every reader here
knows which kind of value it wants, so no tree of values is ever built: what is wanted is read into
its type, and what is not wanted is skipped, but must be well formed.

The first thing wrong ends the reading, and it is of one of three kinds. The kinds are told apart
because they are what a caller may report: the text is no JSON, the text ended too early, or the
text is JSON so far and holds the wrong value.
-/

namespace PaymentRelay.Json

/-- What is wrong with a text that could not be read. -/
inductive Fault where
  /-- It is no JSON. -/
  | malformed
  /-- It ends where more should come. -/
  | truncated
  /-- Its value has the wrong type, is out of range, lacks a member or has one twice. -/
  | unfit
deriving DecidableEq, Repr

def Fault.message : Fault → String
  | .malformed => "the text is not JSON"
  | .truncated => "the text ends early"
  | .unfit => "the text holds the wrong value"

/-- Reads a value and returns the octets after it. -/
abbrev Reader (α : Type) := Bytes → Except Fault (α × Bytes)

def isSpace (b : UInt8) : Bool := b == 0x20 || b == 0x0A || b == 0x0D || b == 0x09

/-- What follows the blanks. -/
def skipSpace (bs : Bytes) : Bytes := bs.dropWhile isSpace

def token (wanted : UInt8) : Reader Unit := fun bs ↦
  match skipSpace bs with
  | [] => .error .truncated
  | b :: rest => if b = wanted then .ok ((), rest) else .error .malformed

def literal : Bytes → Reader Unit
  | [], bs => .ok ((), bs)
  | _ :: _, [] => .error .truncated
  | c :: cs, b :: bs => if b = c then literal cs bs else .error .malformed

/-- The rest of `null`, its first letter read. -/
def nullRest : Bytes := [0x75, 0x6C, 0x6C]

def trueRest : Bytes := [0x72, 0x75, 0x65]

/-- The rest of `false`, its first letter read. -/
def falseRest : Bytes := [0x61, 0x6C, 0x73, 0x65]

/-- Reads a whole text: one value with blanks around it. -/
def readAll {α : Type} (reader : Reader α) (text : Bytes) : Except Fault α :=
  match reader text with
  | .error fault => .error fault
  | .ok (value, rest) => if (skipSpace rest).isEmpty then .ok value else .error .malformed

end PaymentRelay.Json
