import PaymentRelay.Decimal.Read
import PaymentRelay.Proofs.Http.Numerals

/-!
# Reading back a decimal

A decimal is written with all the digits that its scale gives it, zeros at the end included, and the
plain form is read digit by digit with the scale counted along. Neither the coefficient nor the
scale goes beyond its bound on the way, because neither does at the end. So coefficient and scale
are read back as they were, and the sign as well; only a zero that is written with a minus sign is
read as one without.
-/

namespace PaymentRelay

namespace Decimal

variable {d : Decimal}

/-- The decimal, a zero without its minus sign. -/
def unsignedZero (d : Decimal) : Decimal :=
  { d with negative := d.negative ∧ d.magnitude ≠ 0 }

theorem unsignedZero_eq_self_iff :
    d.unsignedZero = d ↔ ¬ (d.negative = true ∧ d.magnitude = 0) := by
  obtain ⟨negative, magnitude, scale, magnitude_lt, scale_le⟩ := d
  rcases negative <;> simp [unsignedZero]

/-! ## What is written -/

/-- The digits of a decimal, enough of them for one before its point. -/
def padded (d : Decimal) : Bytes :=
  List.replicate (d.scale + 1 - (Numeral.ofNat d.magnitude).length) 0x30 ++
    Numeral.ofNat d.magnitude

def whole (d : Decimal) : Bytes := d.padded.take (d.padded.length - d.scale)

def fraction (d : Decimal) : Bytes := d.padded.drop (d.padded.length - d.scale)

def sign (d : Decimal) : Bytes := if d.negative then [0x2D] else []

/-- The point and the digits after it, if there are any. -/
def tail (d : Decimal) : Bytes := if d.scale = 0 then [] else 0x2E :: d.fraction

theorem render_eq (d : Decimal) : d.render = d.sign ++ (d.whole ++ d.tail) :=
  List.append_assoc _ _ _

theorem scale_lt_length_padded (d : Decimal) : d.scale < d.padded.length := by
  rw [padded, List.length_append, List.length_replicate]
  omega

theorem whole_append_fraction (d : Decimal) : d.whole ++ d.fraction = d.padded :=
  List.take_append_drop _ _

theorem length_fraction (d : Decimal) : d.fraction.length = d.scale := by
  have longer := d.scale_lt_length_padded
  rw [fraction, List.length_drop]
  omega

theorem whole_ne_nil (d : Decimal) : d.whole ≠ [] := by
  have longer := d.scale_lt_length_padded
  refine List.ne_nil_of_length_pos ?_
  rw [whole, List.length_take]
  omega

theorem isDigit_of_mem_padded {b : UInt8} (h : b ∈ d.padded) : Octet.isDigit b = true := by
  rcases List.mem_append.mp h with zero | digit
  · rw [List.eq_of_mem_replicate zero]
    decide
  · exact Numeral.isDigit_of_mem_ofNat digit

theorem isDigit_of_mem_whole {b : UInt8} (h : b ∈ d.whole) : Octet.isDigit b = true :=
  isDigit_of_mem_padded (List.mem_of_mem_take h)

theorem isDigit_of_mem_fraction {b : UInt8} (h : b ∈ d.fraction) : Octet.isDigit b = true :=
  isDigit_of_mem_padded (List.mem_of_mem_drop h)

theorem value_padded (d : Decimal) : Numeral.value d.padded = d.magnitude := by
  rw [padded, Numeral.value_zeros_append, Numeral.value_ofNat]

theorem valueFrom_whole_fraction (d : Decimal) :
    Numeral.valueFrom (Numeral.value d.whole) d.fraction = d.magnitude := by
  rw [Numeral.value, ← Numeral.valueFrom_append, whole_append_fraction]
  exact d.value_padded

theorem length_whole_of_zero (h : d.whole.head? = some 0x30) : d.whole.length = 1 := by
  have longer := d.scale_lt_length_padded
  have length : d.whole.length = d.padded.length - d.scale := by
    rw [whole, List.length_take]
    omega
  by_cases short : (Numeral.ofNat d.magnitude).length ≤ d.scale + 1
  · rw [length, padded, List.length_append, List.length_replicate]
    omega
  · -- there are no zeros in front, so the number is zero after all
    have none_ : d.padded = Numeral.ofNat d.magnitude := by
      rw [padded, Nat.sub_eq_zero_of_le (by omega)]
      rfl
    have first : (Numeral.ofNat d.magnitude).head? = some 0x30 := by
      rw [← none_, ← d.whole_append_fraction, List.head?_append_of_ne_nil _ d.whole_ne_nil]
      exact h
    have zero : d.magnitude = 0 := by
      by_contra pos
      exact Numeral.head?_ofNat pos first
    rw [zero] at short
    exact absurd (Nat.le_add_left 1 d.scale) short

/-! ## Reading it -/

/-- **A scan takes digits** as long as the number that they say and their places fit. -/
theorem Scan.run_append {coeff scale : Nat} {point digit : Bool} {ds : Bytes} (rest : Bytes)
    (digits : ∀ b ∈ ds, Octet.isDigit b = true) (fits : Numeral.valueFrom coeff ds < coeffBound)
    (places : if point then scale + ds.length ≤ maxScale else scale < maxScale) :
    Scan.run ⟨coeff, scale, point, digit⟩ (ds ++ rest) = Scan.run ⟨Numeral.valueFrom coeff ds,
      if point then scale + ds.length else scale, point, digit || !ds.isEmpty⟩ rest := by
  induction ds generalizing coeff scale digit with
  | nil => rcases point <;> simp [Numeral.valueFrom]
  | cons b ds ih =>
    have room : scale ≠ maxScale := by
      split at places
      · rw [List.length_cons] at places
        omega
      · exact Nat.ne_of_lt places
    have said : Octet.digit? b = some (Numeral.ofDigit b) := by
      rw [Numeral.ofDigit, Octet.digit?, if_pos (digits b List.mem_cons_self)]
      rfl
    have below : coeff * 10 + Numeral.ofDigit b < coeffBound :=
      Nat.lt_of_le_of_lt (Numeral.le_valueFrom _ _) fits
    have later : ∀ c ∈ ds, Octet.isDigit c = true :=
      fun c there ↦ digits c (List.mem_cons_of_mem _ there)
    rw [List.cons_append, Scan.run, if_neg room, said]
    dsimp only
    rw [if_pos below]
    rcases point
    · rw [if_neg Bool.false_ne_true, ih later fits places]
      simp [Numeral.valueFrom]
    · have places' : scale + 1 + ds.length ≤ maxScale := by
        simpa [Nat.add_assoc, Nat.add_comm 1] using places
      rw [if_pos rfl, ih later fits (by rwa [if_pos rfl])]
      simp [Numeral.valueFrom, Nat.add_assoc, Nat.add_comm 1]

theorem run_written (d : Decimal) :
    Scan.start.run (d.whole ++ d.tail) = some (d.magnitude, d.scale) := by
  have fits := d.valueFrom_whole_fraction ▸ d.magnitude_lt
  have small : Numeral.value d.whole < coeffBound :=
    Nat.lt_of_le_of_lt (Numeral.le_valueFrom _ _) fits
  have some_ : d.whole.isEmpty = false := List.isEmpty_eq_false_iff.mpr d.whole_ne_nil
  have start : Scan.start.run (d.whole ++ d.tail)
      = Scan.run ⟨Numeral.value d.whole, 0, false, true⟩ d.tail := by
    rw [Scan.start, Scan.run_append _ (fun b ↦ isDigit_of_mem_whole) small (by simp [maxScale]),
      some_]
    rfl
  have length := d.length_fraction
  rw [start, tail]
  split
  · next zero =>
    have none_ : d.fraction = [] := List.length_eq_zero_iff.mp (length.trans zero)
    have value := d.valueFrom_whole_fraction
    rw [none_, Numeral.valueFrom] at value
    rw [Scan.run, value, zero]
    rfl
  · have point : Scan.run ⟨Numeral.value d.whole, 0, false, true⟩ (0x2E :: d.fraction)
        = Scan.run ⟨Numeral.value d.whole, 0, true, true⟩ (d.fraction ++ []) := by
      rw [List.append_nil]
      rfl
    rw [point, Scan.run_append _ (fun b ↦ isDigit_of_mem_fraction) fits
      (by simpa [length] using d.scale_le)]
    simp [Scan.run, d.valueFrom_whole_fraction, length]

theorem head?_whole_append (rest : Bytes) :
    ∃ b, (d.whole ++ rest).head? = some b ∧ Octet.isDigit b = true := by
  obtain ⟨b, bs, same⟩ := List.exists_cons_of_ne_nil d.whole_ne_nil
  refine ⟨b, by rw [same]; rfl, isDigit_of_mem_whole (d := d) ?_⟩
  rw [same]
  exact List.mem_cons_self

/-- **A decimal is read back** with its coefficient and its scale, and with its sign unless it is a
zero. -/
theorem read?_render (d : Decimal) : read? d.render = some d.unsignedZero := by
  have made : make? (d.negative ∧ d.magnitude ≠ 0) d.magnitude d.scale = some d.unsignedZero :=
    dif_pos ⟨d.magnitude_lt, d.scale_le⟩
  have plain : readPlain? d.render = some d.unsignedZero := by
    rw [readPlain?, render_eq, sign]
    rcases negative : d.negative
    · obtain ⟨b, first, digit⟩ := d.head?_whole_append d.tail
      have noSign : b ≠ 0x2D ∧ b ≠ 0x2B := by
        constructor <;> (rintro rfl; cases digit)
      simp [first, noSign, run_written, ← made, negative]
    · simp [run_written, ← made, negative]
  rw [read?, plain]
  rfl

theorem length_render_le (d : Decimal) : d.render.length ≤ 31 := by
  have digits : (Numeral.ofNat d.magnitude).length ≤ 29 :=
    (Numeral.length_ofNat_le_iff (by decide)).mpr (Nat.lt_trans d.magnitude_lt (by decide))
  have scale : d.scale ≤ 28 := d.scale_le
  have length : d.whole.length + d.fraction.length = d.padded.length := by
    rw [← List.length_append, whole_append_fraction]
  rw [padded, List.length_append, List.length_replicate] at length
  have signed : d.sign.length ≤ 1 := by
    rw [sign]
    split <;> decide
  have tailed : d.tail.length ≤ d.fraction.length + 1 := by
    rw [tail]
    split
    · exact Nat.zero_le _
    · exact Nat.le_refl _
  rw [render_eq, List.length_append, List.length_append]
  omega

end Decimal

end PaymentRelay
