import PaymentRelay.Json.Basic
import PaymentRelay.Bytes.Utf8

/-!
# Strings

Inside its quotes a string may hold any octets but controls; a backslash begins an escape. A string
that is wanted must be UTF-8, and its `\u` escapes must be characters, those beyond U+FFFF as two
surrogates. A string that is skipped need only be recognisable as one: neither is looked at.

Whether a string is wanted is the parameter `strict`.
-/

namespace PaymentRelay.Json

def hexDigit? (b : UInt8) : Option Nat :=
  if 0x30 ≤ b && b ≤ 0x39 then some (b.toNat - 0x30)
  else if 0x61 ≤ b && b ≤ 0x66 then some (b.toNat - 0x57)
  else if 0x41 ≤ b && b ≤ 0x46 then some (b.toNat - 0x37)
  else none

/-- The four hexadecimal digits of a code unit. Fewer than four octets are an early end, whatever
they are. -/
def codeUnit : Reader Nat
  | a :: b :: c :: d :: rest =>
    match hexDigit? a, hexDigit? b, hexDigit? c, hexDigit? d with
    | some a, some b, some c, some d => .ok (((a * 16 + b) * 16 + c) * 16 + d, rest)
    | _, _, _, _ => .error .malformed
  | _ => .error .truncated

def octet (wanted : UInt8) : Reader Unit
  | [] => .error .truncated
  | b :: rest => if b = wanted then .ok ((), rest) else .error .malformed

/-- The character of a `\u` escape, its two first octets read. -/
def unicodeEscape : Reader Char := fun bs ↦ do
  let (high, bs) ← codeUnit bs
  if 0xDC00 ≤ high ∧ high ≤ 0xDFFF then throw .malformed
  if high < 0xD800 ∨ 0xDBFF < high then return (Char.ofNat high, bs)
  let ((), bs) ← octet 0x5C bs
  let ((), bs) ← octet 0x75 bs
  let (low, bs) ← codeUnit bs
  if low < 0xDC00 ∨ 0xDFFF < low then throw .malformed
  return (Char.ofNat (0x10000 + (high - 0xD800) * 0x400 + (low - 0xDC00)), bs)

/-- The octets that an escape stands for, its backslash read. -/
def escape (strict : Bool) : Reader Bytes
  | [] => .error .truncated
  | b :: bs =>
    if b = 0x22 ∨ b = 0x5C ∨ b = 0x2F then .ok ([b], bs)
    else if b = 0x62 then .ok ([0x08], bs)
    else if b = 0x66 then .ok ([0x0C], bs)
    else if b = 0x6E then .ok ([0x0A], bs)
    else if b = 0x72 then .ok ([0x0D], bs)
    else if b = 0x74 then .ok ([0x09], bs)
    else if b = 0x75 then
      if strict then (unicodeEscape bs).map fun (c, rest) ↦ (encodeChar c, rest)
      else (codeUnit bs).map fun (_, rest) ↦ ([], rest)
    else .error .malformed

theorem codeUnit_length {bs rest : Bytes} {n : Nat} (h : codeUnit bs = .ok (n, rest)) :
    rest.length < bs.length := by
  unfold codeUnit at h
  split at h
  · split at h
    · simp only [Except.ok.injEq, Prod.mk.injEq] at h
      simp only [← h.2, List.length_cons]
      omega
    · cases h
  · cases h

theorem octet_length {wanted : UInt8} {bs rest : Bytes} {u : Unit}
    (h : octet wanted bs = .ok (u, rest)) : rest.length < bs.length := by
  unfold octet at h
  split at h
  · cases h
  · split at h
    · simp only [Except.ok.injEq, Prod.mk.injEq] at h
      simp [← h.2]
    · cases h

theorem unicodeEscape_length {bs rest : Bytes} {c : Char} (h : unicodeEscape bs = .ok (c, rest)) :
    rest.length < bs.length := by
  unfold unicodeEscape at h
  cases h₁ : codeUnit bs with
  | error e => simp [h₁, bind, Except.bind] at h
  | ok p₁ =>
    obtain ⟨high, r₁⟩ := p₁
    have l₁ := codeUnit_length h₁
    simp only [h₁, bind, Except.bind] at h
    split at h
    · simp [throw, throwThe, MonadExceptOf.throw] at h
    split at h
    · simp only [pure, Except.pure, Except.ok.injEq, Prod.mk.injEq] at h
      rw [← h.2]
      exact l₁
    cases h₂ : octet 0x5C r₁ with
    | error e => simp [h₂] at h
    | ok p₂ =>
      obtain ⟨u₂, r₂⟩ := p₂
      have l₂ := octet_length h₂
      simp only [h₂] at h
      cases h₃ : octet 0x75 r₂ with
      | error e => simp [h₃] at h
      | ok p₃ =>
        obtain ⟨u₃, r₃⟩ := p₃
        have l₃ := octet_length h₃
        simp only [h₃] at h
        cases h₄ : codeUnit r₃ with
        | error e => simp [h₄] at h
        | ok p₄ =>
          obtain ⟨low, r₄⟩ := p₄
          have l₄ := codeUnit_length h₄
          simp only [h₄] at h
          split at h
          · simp [throw, throwThe, MonadExceptOf.throw] at h
          · simp only [pure, Except.pure, Except.ok.injEq, Prod.mk.injEq] at h
            rw [← h.2]
            omega

theorem escape_length {strict : Bool} {bs rest meant : Bytes}
    (h : escape strict bs = .ok (meant, rest)) : rest.length < bs.length := by
  unfold escape at h
  split at h
  · cases h
  · next b bs =>
    repeat' split at h
    all_goals first
      | (simp only [Except.ok.injEq, Prod.mk.injEq] at h; simp [← h.2])
      | (cases h)
      | skip
    · cases h₁ : unicodeEscape bs with
      | error e => simp [h₁, Except.map] at h
      | ok p =>
        obtain ⟨c, r⟩ := p
        have := unicodeEscape_length h₁
        simp only [h₁, Except.map, Except.ok.injEq, Prod.mk.injEq] at h
        rw [← h.2, List.length_cons]
        omega
    · cases h₁ : codeUnit bs with
      | error e => simp [h₁, Except.map] at h
      | ok p =>
        obtain ⟨c, r⟩ := p
        have := codeUnit_length h₁
        simp only [h₁, Except.map, Except.ok.injEq, Prod.mk.injEq] at h
        rw [← h.2, List.length_cons]
        omega

/-- The octets of a string up to its closing quote, with `done` those read, last first. -/
def stringFrom (strict : Bool) (done : Bytes) : Reader Bytes
  | [] => .error .truncated
  | b :: bs =>
    if b = 0x22 then .ok (done.reverse, bs)
    else if b = 0x5C then
      match _h : escape strict bs with
      | .error fault => .error fault
      | .ok (meant, rest) => stringFrom strict (meant.reverse ++ done) rest
    else if b < 0x20 then .error .malformed
    else stringFrom strict (b :: done) bs
termination_by bs => bs.length
decreasing_by
  · have := escape_length _h
    simp only [List.length_cons]
    omega
  · simp

/-- A string that is wanted, its opening quote read. -/
def string : Reader String := fun bs ↦ do
  let (octets, rest) ← stringFrom true [] bs
  match Utf8.decode? octets with
  | some s => .ok (s, rest)
  | none => .error .malformed

/-- A string that is skipped, its opening quote read. -/
def skipString : Reader Unit := fun bs ↦ (stringFrom false [] bs).map fun (_, rest) ↦ ((), rest)

end PaymentRelay.Json
