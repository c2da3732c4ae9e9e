import PaymentRelay.Json.Number
import PaymentRelay.Json.Text

/-!
# Skipping a value

A value that nobody asked for is passed over, nested to any depth. The only memory is the stack of
the brackets that are open; every step reads at least one octet, so the length of the text bounds
the number of steps.

Within a skipped value a number that breaks off is malformed even at the end of the text.
-/

namespace PaymentRelay.Json

/-- An open bracket. -/
inductive Frame where
  | array
  | object
deriving DecidableEq, Repr

def Frame.close : Frame → UInt8
  | .array => 0x5D
  | .object => 0x7D

/-- The name of a member and its colon, from the opening quote on. -/
def skipName : Reader Unit := fun bs ↦ do
  let ((), bs) ← token 0x22 bs
  let ((), bs) ← skipString bs
  token 0x3A bs

/-- Where the reader stands. -/
inductive Place where
  /-- A value should come. -/
  | before
  /-- A value has just ended. -/
  | behind
  /-- A bracket has just been opened. -/
  | opened (frame : Frame)
deriving DecidableEq, Repr

/-- A value that holds no others, its first octet `b` read from `b :: bs`. -/
def skipScalar (b : UInt8) (bs : Bytes) : Except Fault Bytes :=
  if b = 0x6E then (literal nullRest bs).map Prod.snd
  else if b = 0x74 then (literal trueRest bs).map Prod.snd
  else if b = 0x66 then (literal falseRest bs).map Prod.snd
  else if b = 0x22 then (skipString bs).map Prod.snd
  else if Number.starts b then
    match Number.read (b :: bs) with
    | .ok (_, rest) => .ok rest
    | .error _ => .error .malformed
  else .error .malformed

/-- What comes before the next value in an open bracket: in an object a name, in an array
nothing. -/
def skipPreamble (frame : Frame) (bs : Bytes) : Except Fault Bytes :=
  match frame with
  | .array => .ok bs
  | .object => (skipName bs).map Prod.snd

/-- A step of the reader: the octets left after the whole value, or where it stands next. -/
abbrev SkipResult := Except Fault (Bytes ⊕ (Place × List Frame × Bytes))

/-- The step at the first octet `b` that is no blank, with `rest` behind it. -/
def skipAt (place : Place) (stack : List Frame) (b : UInt8) (rest : Bytes) : SkipResult :=
  match place, stack with
  | .opened frame, stack =>
    if b = frame.close then .ok (.inr (.behind, stack, rest))
    else (skipPreamble frame (b :: rest)).map fun bs ↦ .inr (.before, frame :: stack, bs)
  | .behind, frame :: stack =>
    if b = frame.close then .ok (.inr (.behind, stack, rest))
    else if b = 0x2C then (skipPreamble frame rest).map fun bs ↦ .inr (.before, frame :: stack, bs)
    else .error .malformed
  | .before, stack =>
    if b = 0x5B then .ok (.inr (.opened .array, stack, rest))
    else if b = 0x7B then .ok (.inr (.opened .object, stack, rest))
    else (skipScalar b rest).map fun bs ↦ .inr (.behind, stack, bs)
  | .behind, [] => .ok (.inl (b :: rest))

/-- One step. Behind a value with no bracket open the reading is over. -/
def skipStep (place : Place) (stack : List Frame) (bs : Bytes) : SkipResult :=
  if place = .behind ∧ stack = [] then .ok (.inl bs)
  else
    match skipSpace bs with
    | [] => .error .truncated
    | b :: rest => skipAt place stack b rest

/-- Steps until the value ends, at most `fuel` of them. -/
def skipFrom (place : Place) (stack : List Frame) (bs : Bytes) : (fuel : Nat) → Except Fault Bytes
  | 0 => .error .malformed
  | fuel + 1 =>
    match skipStep place stack bs with
    | .error fault => .error fault
    | .ok (.inl rest) => .ok rest
    | .ok (.inr (place, stack, rest)) => skipFrom place stack rest fuel

/-- Skips one value. An opened array may be looked at once more without reading an octet, hence
two steps for each. -/
def skipValue : Reader Unit := fun bs ↦
  (skipFrom .before [] bs (2 * bs.length + 2)).map fun rest ↦ ((), rest)

end PaymentRelay.Json
