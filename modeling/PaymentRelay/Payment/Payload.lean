import PaymentRelay.BufferPool
import PaymentRelay.Json.Record
import PaymentRelay.Text.Quoted
import PaymentRelay.Decimal.Sum
import PaymentRelay.Time.Rfc3339

/-!
# Payments, as they come in and as they go out

A payload is the JSON text that a client posts. A payment is what it says: an identifier and an
amount. The body sent to a processor is put together from the payment by hand, with the identifier
between quotes as it is; that is sound because a payload whose identifier would need escaping there
is refused when it is read.
-/

namespace PaymentRelay

/-- An accepted payment. -/
structure Payment where
  /-- The client's identifier. -/
  correlationId : String
  /-- The amount, with the scale the client gave it. -/
  amount : Decimal
deriving DecidableEq, Repr

namespace Payload

/-- The largest amount of one payment, a million million. It keeps totals far from the greatest
decimal. -/
def maxAmount : Nat := 1000000000000

/-- Why a payload holds no payment. -/
inductive Fault where
  /-- It is no JSON record of the right shape. -/
  | unreadable (fault : Json.Fault)
  /-- It names no identifier. -/
  | identifierMissing
  /-- It names no amount. -/
  | amountMissing
  /-- Its identifier cannot stand between quotes as it is. -/
  | needsEscaping (correlationId : String)
  /-- Its amount has a minus sign or is too large. -/
  | amountOutside (amount : Decimal)
deriving DecidableEq, Repr

def Fault.message : Fault → String
  | .unreadable fault => fault.message
  | .identifierMissing => "missing correlationId"
  | .amountMissing => "missing amount"
  | .needsEscaping id => "correlationId " ++ Text.quote id ++ " needs escaping"
  | .amountOutside amount =>
    "amount " ++ amount.render.toText ++ " outside 0..=" ++ toString maxAmount

/-! ## Reading -/

/-- The members of a payload that have been found; a member found may be `null`. -/
structure Found where
  correlationId : Option (Option String) := none
  amount : Option (Option Decimal) := none

def members : List (Json.Member Found) :=
  [⟨"correlationId", (·.correlationId.isSome), fun found bs ↦
      (Json.optional Json.text bs).map fun (id, rest) ↦
        ({ found with correlationId := some id }, rest)⟩,
    ⟨"amount", (·.amount.isSome), fun found bs ↦
      (Json.optional Json.decimal bs).map fun (amount, rest) ↦
        ({ found with amount := some amount }, rest)⟩]

/-- Reads the members of a payload; each may be missing. -/
def record : Json.Reader (Option String × Option Decimal) :=
  Json.record members {} fun found ↦ .ok (found.correlationId.join, found.amount.join)

/-- A character that cannot stand between quotes as it is: a quote, a backslash or a control. -/
def mustBeEscaped (c : Char) : Bool :=
  c == '"' || c == '\\' || c.toNat < 0x20 || (0x7F ≤ c.toNat && c.toNat ≤ 0x9F)

/-- The payment that a payload holds. -/
def read (payload : String) : Except Fault Payment :=
  match Json.readAll record (utf8 payload) with
  | .error fault => .error (.unreadable fault)
  | .ok (none, _) => .error .identifierMissing
  | .ok (some _, none) => .error .amountMissing
  | .ok (some id, some amount) =>
    if id.toList.any mustBeEscaped then .error (.needsEscaping id)
    else if amount.negative ∨ amount.exceeds maxAmount then .error (.amountOutside amount)
    else .ok ⟨id, amount⟩

/-- A payload holds a payment if it has both members, the identifier needs no escaping, and the
amount is within its bounds. -/
theorem read_eq_ok_iff {payload : String} {p : Payment} : read payload = .ok p ↔
    Json.readAll record (utf8 payload) = .ok (some p.correlationId, some p.amount) ∧
      p.correlationId.toList.any mustBeEscaped = false ∧ p.amount.negative = false ∧
      p.amount.exceeds maxAmount = false := by
  obtain ⟨id, amount⟩ := p
  rw [read]
  split
  · next fault found => simp [found]
  · next found => simp [found]
  · next found => simp [found]
  · next id' amount' found =>
    rw [found]
    constructor
    · intro h
      split at h
      · cases h
      next plain =>
        split at h
        · cases h
        next inside =>
          cases h
          simpa [plain] using inside
    · rintro ⟨same, plain, positive, small⟩
      cases same
      have inside : ¬ (amount.negative = true ∨ amount.exceeds maxAmount = true) := by
        rintro (negative | large)
        · exact Bool.false_ne_true (positive.symm.trans negative)
        · exact Bool.false_ne_true (small.symm.trans large)
      rw [if_neg (by simp [plain]), if_neg inside]

end Payload

/-! ## Writing -/

/-- The body of a request that names an instant: the payment and that instant, to the
millisecond. -/
def Payment.bodyAt (p : Payment) (instant : Instant) : Bytes :=
  utf8 "\x7b\"correlationId\":\"" ++ utf8 p.correlationId ++ utf8 "\",\"amount\":" ++
    p.amount.render ++ utf8 ",\"requestedAt\":\"" ++ Rfc3339.writeMillis instant ++
    utf8 "\"\x7d"

/-- The body sent to a processor: the payment and the instant of its dispatch. -/
def Payment.body (p : Payment) (requestedAt : Millis) : Bytes :=
  p.bodyAt (Instant.ofMillis requestedAt)

/-- Writes the body into the buffer of a connection, which may hold another. -/
def Payment.writeBody (p : Payment) (instant : Instant) (buffer : Buffer) : Buffer :=
  buffer.clear.append (p.bodyAt instant)

end PaymentRelay
