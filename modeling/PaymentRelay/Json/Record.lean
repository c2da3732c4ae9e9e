import PaymentRelay.Json.Skip

/-!
# Records

A record is read from an object or from an array. In an object its members may come in any order,
each at most once, with any others between them; in an array its members come in the order in which
they are declared, all of them and nothing else. Members that an object lacks are the business of
whoever makes the record of what was found.
-/

namespace PaymentRelay.Json

/-- The fault of a value that reads well and is not wanted, or the fault that reading it met. -/
def unwanted {α : Type} : Except Fault α → Fault
  | .error fault => fault
  | .ok _ => .unfit

/-- The fault of finding here a value of a kind that is not wanted. A scalar is read to its end
first, so that one that is malformed counts as that. -/
def misfit (bs : Bytes) : Fault :=
  match bs with
  | [] => .truncated
  | b :: rest =>
    if b = 0x5B ∨ b = 0x7B then .unfit
    else if b = 0x6E then unwanted (literal nullRest rest)
    else if b = 0x74 then unwanted (literal trueRest rest)
    else if b = 0x66 then unwanted (literal falseRest rest)
    else if b = 0x22 then unwanted (string rest)
    else if Number.starts b then unwanted (Number.read bs)
    else .malformed

/-! ## Scalars -/

def text : Reader String := fun bs ↦
  match skipSpace bs with
  | 0x22 :: rest => string rest
  | bs => .error (misfit bs)

def truth : Reader Bool := fun bs ↦
  match skipSpace bs with
  | 0x74 :: rest => (literal trueRest rest).map fun (_, rest) ↦ (true, rest)
  | 0x66 :: rest => (literal falseRest rest).map fun (_, rest) ↦ (false, rest)
  | bs => .error (misfit bs)

def count : Reader Nat := fun bs ↦
  match skipSpace bs with
  | [] => .error .truncated
  | b :: rest =>
    if Number.starts b then do
      let (n, rest) ← Number.read (b :: rest)
      let value ← n.toCount
      .ok (value, rest)
    else .error (misfit (b :: rest))

/-- A value that may be `null`. -/
def optional {α : Type} (reader : Reader α) : Reader (Option α) := fun bs ↦
  match skipSpace bs with
  | 0x6E :: rest => (literal nullRest rest).map fun (_, rest) ↦ (none, rest)
  | bs => (reader bs).map fun (value, rest) ↦ (some value, rest)

/-- The name of the only member of an object that stands for a number: some writers wrap the
number's text so. It is a dollar sign, two lower-case names and `Number`, with double colons
between. -/
def wrapName : Bytes :=
  [0x24, 0x73, 0x65, 0x72, 0x64, 0x65, 0x5F, 0x6A, 0x73, 0x6F, 0x6E, 0x3A, 0x3A, 0x70, 0x72, 0x69,
    0x76, 0x61, 0x74, 0x65, 0x3A, 0x3A, 0x4E, 0x75, 0x6D, 0x62, 0x65, 0x72]

/-- The decimal that a text spells. -/
def spelled (s : Bytes) : Except Fault Decimal :=
  match Decimal.read? s with
  | some d => .ok d
  | none => .error .unfit

/-- The decimal in an object that wraps it, the opening brace read. -/
def wrapped : Reader Decimal := fun bs ↦
  match skipSpace bs with
  | 0x7D :: _ => .error .unfit
  | bs => do
    let ((), bs) ← token 0x22 bs
    let (name, bs) ← string bs
    if utf8 name ≠ wrapName then throw .unfit
    let ((), bs) ← token 0x3A bs
    let (s, bs) ← text bs
    let d ← spelled (utf8 s)
    let ((), bs) ← token 0x7D bs
    return (d, bs)

/-- A decimal: a number, whose digits are taken as they stand, or a text that spells one. -/
def decimal : Reader Decimal := fun bs ↦
  match skipSpace bs with
  | [] => .error .truncated
  | b :: rest =>
    if Number.starts b then do
      let (n, rest) ← Number.read (b :: rest)
      let d ← spelled n.text
      .ok (d, rest)
    else if b = 0x22 then do
      let (s, rest) ← string rest
      let d ← spelled (utf8 s)
      .ok (d, rest)
    else if b = 0x7B then wrapped rest
    else .error (misfit (b :: rest))

/-! ## Members -/

/-- A member of a record that is gathered in a `σ`. -/
structure Member (σ : Type) where
  /-- Its name in an object. -/
  name : String
  /-- It has been read. -/
  found : σ → Bool
  /-- Reads its value into what has been gathered. -/
  read : σ → Reader σ

/-- The name of the next member, after a comma unless it is the first; `none` at the closing
brace. -/
def nextName (first : Bool) : Reader (Option String) := fun bs ↦
  match skipSpace bs with
  | [] => .error .truncated
  | 0x7D :: rest => .ok (none, rest)
  | b :: rest => do
    if b ≠ 0x2C ∧ !first then throw .malformed
    let ((), rest) ← token 0x22 (if b = 0x2C ∧ !first then rest else b :: rest)
    let (name, rest) ← string rest
    return (some name, rest)

/-- The value of the member `name`, from its colon on. A name that comes twice is refused before
its value. -/
def memberValue {σ : Type} (members : List (Member σ)) (gathered : σ) (name : String) : Reader σ :=
  fun bs ↦
    match members.find? (·.name = name) with
    | some m => do
      if m.found gathered then throw .unfit
      let ((), bs) ← token 0x3A bs
      m.read gathered bs
    | none => do
      let ((), bs) ← token 0x3A bs
      let ((), bs) ← skipValue bs
      return (gathered, bs)

/-- The members of an object, at most `fuel` of them, its opening brace read. -/
def objectFrom {σ : Type} (members : List (Member σ)) (gathered : σ) (first : Bool) (bs : Bytes) :
    (fuel : Nat) → Except Fault (σ × Bytes)
  | 0 => .error .malformed
  | fuel + 1 =>
    match nextName first bs with
    | .error fault => .error fault
    | .ok (none, rest) => .ok (gathered, rest)
    | .ok (some name, rest) =>
      match memberValue members gathered name rest with
      | .error fault => .error fault
      | .ok (gathered, rest) => objectFrom members gathered false rest fuel

/-- The members of an array, its opening bracket read. -/
def arrayFrom {σ : Type} (gathered : σ) (first : Bool) (bs : Bytes) :
    List (Member σ) → Except Fault (σ × Bytes)
  | [] => (token 0x5D bs).map fun (_, rest) ↦ (gathered, rest)
  | m :: members =>
    match skipSpace bs with
    | [] => .error .truncated
    | b :: rest => do
      if b = 0x5D then throw .unfit
      if b ≠ 0x2C ∧ !first then throw .malformed
      let rest := skipSpace (if first then b :: rest else rest)
      if rest.isEmpty then throw .truncated
      if !first ∧ rest.head? = some 0x5D then throw .malformed
      let (gathered, rest) ← m.read gathered rest
      arrayFrom gathered false rest members

/-- Reads a record: gathers its members and makes of them what `finish` says. -/
def record {σ α : Type} (members : List (Member σ)) (start : σ) (finish : σ → Except Fault α) :
    Reader α := fun bs ↦
  match skipSpace bs with
  | 0x7B :: rest => do
    let (gathered, rest) ← objectFrom members start true rest (rest.length + 1)
    let value ← finish gathered
    return (value, rest)
  | 0x5B :: rest => do
    let (gathered, rest) ← arrayFrom start true rest members
    let value ← finish gathered
    return (value, rest)
  | bs => .error (misfit bs)

/-- A member that must have been found. -/
def required {α : Type} : Option α → Except Fault α
  | some value => .ok value
  | none => .error .unfit

end PaymentRelay.Json
