import Mathlib.Data.List.Basic
import Mathlib.Data.List.Induction
import Mathlib.Data.Nat.Digits.Defs
import PaymentRelay.Http.Numeral
import PaymentRelay.Number.Power

/-!
# What numerals say

A run of digits says a number, and the bounded reader finds that number exactly if it is below the
bound; the digits of a number say that number. Zeros in front change nothing, and nothing else says
the same: every numeral of a number is its digits with zeros in front of them, so these digits are
the shortest numeral that it has.

An encoder that fills its buffer from the right writes just these digits, whatever the buffer held,
if there is room for them. In a buffer of twenty octets there is room for every number of 64 bits.
-/

namespace PaymentRelay.Numeral

def ofDigit (b : UInt8) : Nat := (Octet.digit? b).getD 0

/-- The number that digits say after digits that said `acc`. -/
def valueFrom (acc : Nat) : Bytes → Nat
  | [] => acc
  | b :: bs => valueFrom (acc * 10 + ofDigit b) bs

/-- The number that digits say. -/
def value (bs : Bytes) : Nat := valueFrom 0 bs

/-- Octets are a numeral of a number: digits that say it, and at least one. -/
def IsNumeral (bs : Bytes) (n : Nat) : Prop :=
  bs ≠ [] ∧ (∀ b ∈ bs, Octet.isDigit b = true) ∧ value bs = n

/-- The shortest numeral of a number: every other one has more digits. -/
def IsShortest (bs : Bytes) (n : Nat) : Prop :=
  IsNumeral bs n ∧ ∀ other, IsNumeral other n → other = bs ∨ bs.length < other.length

instance : DecidableRel IsNumeral := fun _ _ ↦ inferInstanceAs (Decidable (_ ∧ _))

variable {limit acc n : Nat} {bs : Bytes}

theorem valueFrom_append (acc : Nat) (bs cs : Bytes) :
    valueFrom acc (bs ++ cs) = valueFrom (valueFrom acc bs) cs := by
  induction bs generalizing acc with
  | nil => rfl
  | cons b bs ih => exact ih _

theorem le_valueFrom (acc : Nat) (bs : Bytes) : acc ≤ valueFrom acc bs := by
  induction bs generalizing acc with
  | nil => exact Nat.le_refl _
  | cons b bs ih =>
    have later := ih (acc * 10 + ofDigit b)
    rw [valueFrom]
    omega

/-- **The bounded reader** finds the number that digits say, if it is below the bound. -/
theorem readFrom_eq_some_iff (small : acc < limit) : readFrom limit acc bs = some n ↔
    (∀ b ∈ bs, Octet.isDigit b = true) ∧ valueFrom acc bs < limit ∧ n = valueFrom acc bs := by
  induction bs generalizing acc with
  | nil => simp [readFrom, valueFrom, small, @eq_comm _ n]
  | cons b bs ih =>
    rw [readFrom, valueFrom, ofDigit, Octet.digit?, List.forall_mem_cons]
    cases Octet.isDigit b with
    | false => simp
    | true =>
      simp only [if_true, Option.getD_some, true_and]
      generalize b.toNat - 0x30 = d
      by_cases below : acc * 10 + d < limit
      · simp [below, ih below]
      · have later := le_valueFrom (acc * 10 + d) bs
        have ended : ¬ valueFrom (acc * 10 + d) bs < limit := by omega
        simp [below, ended]

theorem read?_eq_some_iff (pos : 0 < limit) :
    read? limit bs = some n ↔ IsNumeral bs n ∧ n < limit := by
  rw [read?, IsNumeral, value]
  by_cases none_ : bs = []
  · simp [none_]
  · rw [if_neg (by simpa using none_), readFrom_eq_some_iff pos]
    constructor
    · rintro ⟨digits, small, rfl⟩
      exact ⟨⟨none_, digits, rfl⟩, small⟩
    · rintro ⟨⟨-, digits, rfl⟩, small⟩
      exact ⟨digits, small, rfl⟩

theorem read?_of_isNumeral (pos : 0 < limit) (numeral : IsNumeral bs n) :
    read? limit bs = if n < limit then some n else none := by
  refine Option.ext fun m ↦ ?_
  rw [read?_eq_some_iff pos, Option.ite_none_right_eq_some, Option.some_inj]
  obtain ⟨some_, digits, rfl⟩ := numeral
  constructor
  · rintro ⟨⟨-, -, rfl⟩, small⟩
    exact ⟨small, rfl⟩
  · rintro ⟨small, rfl⟩
    exact ⟨⟨some_, digits, rfl⟩, small⟩

theorem ofDigit_lt (b : UInt8) : ofDigit b < 10 := by
  unfold ofDigit Octet.digit?
  split
  · next digit =>
    have last : b.toNat ≤ 57 := by
      simp only [Octet.isDigit, Bool.and_eq_true, decide_eq_true_eq] at digit
      exact UInt8.le_iff_toNat_le.mp digit.2
    rw [Option.getD_some]
    omega
  · decide

theorem valueFrom_lt (acc : Nat) (bs : Bytes) : valueFrom acc bs < (acc + 1) * 10 ^ bs.length := by
  induction bs generalizing acc with
  | nil => simp [valueFrom]
  | cons b bs ih =>
    have digit := ofDigit_lt b
    calc valueFrom acc (b :: bs) < (acc * 10 + ofDigit b + 1) * 10 ^ bs.length := ih _
      _ ≤ (acc + 1) * 10 * 10 ^ bs.length := Nat.mul_le_mul_right _ (by omega)
      _ = (acc + 1) * 10 ^ (b :: bs).length := by
        rw [List.length_cons, Nat.pow_succ', Nat.mul_assoc]

theorem value_lt (bs : Bytes) : value bs < 10 ^ bs.length := by
  simpa [value] using valueFrom_lt 0 bs

/-! ## The digits of a number -/

theorem isDigit_digitChar {d : Nat} (h : d < 10) :
    Octet.isDigit d.digitChar.toNat.toUInt8 = true ∧ ofDigit d.digitChar.toNat.toUInt8 = d := by
  revert d
  decide

theorem ofNat_of_lt (h : n < 10) : ofNat n = [n.digitChar.toNat.toUInt8] := by
  rw [ofNat, Nat.toDigits_of_lt_base h]
  rfl

theorem ofNat_of_le (h : 10 ≤ n) :
    ofNat n = ofNat (n / 10) ++ [(n % 10).digitChar.toNat.toUInt8] := by
  rw [ofNat, Nat.toDigits_of_base_le (by decide) h, List.map_append]
  rfl

theorem isDigit_of_mem_ofNat {b : UInt8} (h : b ∈ ofNat n) : Octet.isDigit b = true := by
  induction n using Nat.strongRecOn with
  | ind n ih =>
    by_cases small : n < 10
    · rw [ofNat_of_lt small, List.mem_singleton] at h
      exact h ▸ (isDigit_digitChar small).1
    · rw [ofNat_of_le (by omega), List.mem_append, List.mem_singleton] at h
      rcases h with h | h
      · exact ih (n / 10) (by omega) h
      · exact h ▸ (isDigit_digitChar (Nat.mod_lt _ (by decide))).1

/-- **The digits of a number say that number.** -/
@[simp] theorem value_ofNat (n : Nat) : value (ofNat n) = n := by
  induction n using Nat.strongRecOn with
  | ind n ih =>
    rw [value] at *
    by_cases small : n < 10
    · rw [ofNat_of_lt small, valueFrom, valueFrom, (isDigit_digitChar small).2]
      omega
    · have front : valueFrom 0 (ofNat (n / 10)) = n / 10 := ih (n / 10) (by omega)
      rw [ofNat_of_le (by omega), valueFrom_append, front, valueFrom, valueFrom,
        (isDigit_digitChar (Nat.mod_lt _ (by decide))).2]
      omega

theorem ofNat_ne_nil (n : Nat) : ofNat n ≠ [] := by
  simp [ofNat, Nat.toDigits_ne_nil]

theorem isNumeral_ofNat (n : Nat) : IsNumeral (ofNat n) n :=
  ⟨ofNat_ne_nil n, fun _ ↦ isDigit_of_mem_ofNat, value_ofNat n⟩

/-- **The bounded reader reads back** the digits of a number below its bound. -/
theorem read?_ofNat (small : n < limit) : read? limit (ofNat n) = some n :=
  (read?_eq_some_iff (Nat.zero_lt_of_lt small)).mpr ⟨isNumeral_ofNat n, small⟩

theorem head?_ofNat (pos : n ≠ 0) : (ofNat n).head? ≠ some 0x30 := by
  induction n using Nat.strongRecOn with
  | ind n ih =>
    by_cases small : n < 10
    · have digit : ∀ n < 10, n ≠ 0 → [n.digitChar.toNat.toUInt8].head? ≠ some 0x30 := by decide
      rw [ofNat_of_lt small]
      exact digit n small pos
    · have front := ih (n / 10) (by omega) (by omega)
      rwa [ofNat_of_le (by omega), List.head?_append_of_ne_nil _ (ofNat_ne_nil _)]

theorem ofNat_of_three_digits (least : 100 ≤ n) (most : n < 1000) :
    ofNat n = [(n / 100).digitChar.toNat.toUInt8, (n / 10 % 10).digitChar.toNat.toUInt8,
      (n % 10).digitChar.toNat.toUInt8] := by
  have first : n / 10 / 10 = n / 100 := Nat.div_div_eq_div_mul n 10 10
  rw [ofNat_of_le (by omega), ofNat_of_le (by omega), ofNat_of_lt (by omega), first]
  rfl

theorem length_ofNat_le_iff {width : Nat} (pos : 0 < width) :
    (ofNat n).length ≤ width ↔ n < 10 ^ width := by
  rw [ofNat, List.length_map, Nat.length_toDigits_le_iff (by decide) pos]

theorem value_zeros_append (k : Nat) (bs : Bytes) :
    value (List.replicate k 0x30 ++ bs) = value bs := by
  induction k with
  | zero => rfl
  | succ k ih => exact ih

/-! ## The numerals of a number -/

theorem octet_digitChar {d : Nat} (h : d < 10) :
    d.digitChar.toNat.toUInt8 = 0x30 + d.toUInt8 := by
  revert d
  decide

theorem octet_ofDigit {b : UInt8} (digit : Octet.isDigit b = true) :
    (ofDigit b).digitChar.toNat.toUInt8 = b := by
  have told : ofDigit b = b.toNat - 48 := by
    rw [ofDigit, Octet.digit?, if_pos digit]
    rfl
  simp only [Octet.isDigit, Bool.and_eq_true, decide_eq_true_eq, UInt8.le_iff_toNat_le,
    UInt8.reduceToNat] at digit
  rw [octet_digitChar (ofDigit_lt b), told, ← UInt8.toNat_inj]
  simp
  omega

theorem ofNat_mul_ten_add {m d : Nat} (pos : m ≠ 0) (small : d < 10) :
    ofNat (m * 10 + d) = ofNat m ++ [d.digitChar.toNat.toUInt8] := by
  have front : (m * 10 + d) / 10 = m := by omega
  have last : (m * 10 + d) % 10 = d := by omega
  rw [ofNat_of_le (by omega), front, last]

/-- Digits are those of the number that they say, with zeros in front. -/
theorem eq_zeros_append (some_ : bs ≠ []) (digits : ∀ b ∈ bs, Octet.isDigit b = true) :
    ∃ zeros, bs = List.replicate zeros 0x30 ++ ofNat (value bs) := by
  -- from the right end, where the last digit of a number stands
  induction bs using List.reverseRecOn with
  | nil => exact absurd rfl some_
  | append_singleton front b ih =>
    have digit : Octet.isDigit b = true := digits b (by simp)
    have said : value (front ++ [b]) = value front * 10 + ofDigit b := by
      rw [value, valueFrom_append]
      rfl
    by_cases empty : front = []
    · refine ⟨0, ?_⟩
      rw [said, empty, value, valueFrom, Nat.zero_mul, Nat.zero_add, ofNat_of_lt (ofDigit_lt b),
        octet_ofDigit digit]
      rfl
    · obtain ⟨zeros, cut⟩ := ih empty fun c there ↦ digits c (List.mem_append_left _ there)
      by_cases none_ : value front = 0
      · -- the zero that stands for the front is one more in front of the last digit
        refine ⟨zeros + 1, ?_⟩
        rw [none_] at cut
        rw [said, none_, Nat.zero_mul, Nat.zero_add, ofNat_of_lt (ofDigit_lt b),
          octet_ofDigit digit, cut, List.replicate_succ']
        rfl
      · refine ⟨zeros, ?_⟩
        rw [said, ofNat_mul_ten_add none_ (ofDigit_lt b), octet_ofDigit digit,
          ← List.append_assoc, ← cut]

/-- **The numerals of a number** are its digits with any number of zeros in front of them. -/
theorem isNumeral_iff : IsNumeral bs n ↔ ∃ zeros, bs = List.replicate zeros 0x30 ++ ofNat n := by
  constructor
  · rintro ⟨some_, digits, rfl⟩
    exact eq_zeros_append some_ digits
  · rintro ⟨zeros, rfl⟩
    refine ⟨by simp [ofNat_ne_nil], ?_, by rw [value_zeros_append, value_ofNat]⟩
    intro b there
    rcases List.mem_append.mp there with zero | digit
    · rw [List.eq_of_mem_replicate zero]
      rfl
    · exact isDigit_of_mem_ofNat digit

theorem isShortest_ofNat (n : Nat) : IsShortest (ofNat n) n := by
  refine ⟨isNumeral_ofNat n, fun other told ↦ ?_⟩
  obtain ⟨zeros, rfl⟩ := isNumeral_iff.mp told
  rcases zeros with _ | zeros
  · exact .inl rfl
  · refine .inr ?_
    rw [List.length_append, List.length_replicate]
    omega

/-! ## Digits in a buffer -/

theorem drop_set_toList {room start : Nat} (dst : Vector UInt8 room) (b : UInt8)
    (within : start < room) :
    (dst.set start b within).toList.drop start = b :: dst.toList.drop (start + 1) := by
  have inside : start < dst.toList.length := by simpa using within
  have front : (dst.toList.take start).length = start := List.length_take_of_le inside.le
  rw [Vector.toList_set, List.set_eq_take_append_cons_drop, if_pos inside, List.drop_left' front]

/-- **Digits are written from the right**, up to a position, and what stands after it is kept. -/
theorem writeBefore_eq {room : Nat} (dst : Vector UInt8 room) (n : Nat) {start : Nat}
    (within : start ≤ room) : writeBefore dst n start within =
      if (ofNat n).length ≤ start then some (ofNat n ++ dst.toList.drop start) else none := by
  induction start generalizing dst n with
  | zero =>
    have some_ : ¬ (ofNat n).length ≤ 0 := by
      simpa using ofNat_ne_nil n
    rw [writeBefore, if_neg some_]
  | succ start ih =>
    rw [writeBefore]
    by_cases one : n / 10 = 0
    · have small : n < 10 := by omega
      rw [if_pos one, drop_set_toList, ofNat_of_lt small, octet_digitChar small,
        Nat.mod_eq_of_lt small]
      simp
    · have more : 10 ≤ n := by omega
      rw [if_neg one, ih, drop_set_toList, ofNat_of_le more,
        octet_digitChar (Nat.mod_lt _ (by decide))]
      simp

/-- **An encoder has room** for twenty digits, and what its buffer held does not matter. -/
theorem write?_eq (dst : Vector UInt8 20) (n : Nat) :
    write? dst n = if n < 10 ^ 20 then some (ofNat n) else none := by
  have full : dst.toList.drop 20 = [] := List.drop_eq_nil_of_le (by simp)
  have fits : (ofNat n).length ≤ 20 ↔ n < 10 ^ 20 := length_ofNat_le_iff (by decide)
  rw [write?, writeBefore_eq, full, List.append_nil]
  simp only [fits]

end PaymentRelay.Numeral
