import Mathlib.Algebra.Order.BigOperators.Group.List
import Mathlib.Algebra.Order.Field.Rat
import Mathlib.Data.List.MinMax
import Mathlib.Tactic.FieldSimp
import Mathlib.Tactic.Linarith
import Mathlib.Tactic.Positivity
import Mathlib.Tactic.Ring
import PaymentRelay.Decimal.Sum

/-!
# Sums as numbers

Amounts that are written differently may be the same number, and whether a sum is right is a
question about numbers. `value` is the number that a decimal is. Not every number is one: a decimal
has at most 96 bits and 28 digits after its point.

An addition rounds only where it must. It tries the larger of the two scales first and gives up one
digit at a time, and no digit that it gives up before the sum fits is more than a zero if the sum
is a decimal at all. So an addition is exact if and only if the exact sum is a decimal, and adding
up a list is exact if the sum of each part from its beginning is.
-/

namespace PaymentRelay

theorem nearestEven_mul (c : Nat) {unit : Nat} (pos : 0 < unit) :
    nearestEven (c * unit) unit = c := by
  have whole : c * unit / unit = c := Nat.mul_div_cancel c pos
  have rest : c * unit % unit = 0 := Nat.mul_mod_left c unit
  rw [nearestEven, whole, rest]
  exact if_neg (by omega)

namespace Decimal

/-- The number that a decimal is. -/
def value (d : Decimal) : ℚ := d.coeff / 10 ^ d.scale

/-- The number is a decimal. -/
def IsDecimal (q : ℚ) : Prop := ∃ d : Decimal, d.value = q

variable {a b d : Decimal} {n scale : Nat}

theorem natAbs_coeff (d : Decimal) : d.coeff.natAbs = d.magnitude := by
  rw [coeff]
  split <;> simp

theorem coeff_eq_zero_iff : d.coeff = 0 ↔ d.magnitude = 0 := by
  rw [← natAbs_coeff, Int.natAbs_eq_zero]

theorem value_of_zero (h : d.magnitude = 0) : d.value = 0 := by
  rw [value, coeff_eq_zero_iff.mpr h]
  simp

@[simp] theorem value_zero : zero.value = 0 := value_of_zero rfl

theorem value_nonneg (h : 0 ≤ d.coeff) : 0 ≤ d.value := by
  have number : (0 : ℚ) ≤ d.coeff := by exact_mod_cast h
  exact div_nonneg number (by positivity)

theorem value_eq_coeffAt (h : d.scale ≤ scale) : d.value = d.coeffAt scale / 10 ^ scale := by
  have split_ : (10 : ℚ) ^ scale = 10 ^ (scale - d.scale) * 10 ^ d.scale := by
    rw [← pow_add, Nat.sub_add_cancel h]
  have power : ((pow10 (scale - d.scale) : ℕ) : ℚ) = 10 ^ (scale - d.scale) := by
    simp [pow10]
  rw [value, coeffAt, split_, Int.cast_mul, Int.cast_natCast, power]
  field_simp

/-- A number of so many digits after its point that is a decimal has at least so many zeros at its
end as its other digits do not fit. -/
theorem IsDecimal.exists_multiple {m : Int} (h : IsDecimal ((m : ℚ) / 10 ^ scale)) :
    ∃ k ≤ scale, ∃ c < coeffBound, m.natAbs = c * 10 ^ k := by
  obtain ⟨d, same⟩ := h
  have crossed : d.coeff * 10 ^ scale = m * 10 ^ d.scale := by
    rw [value, div_eq_div_iff (by positivity) (by positivity)] at same
    exact_mod_cast same
  have sizes : d.magnitude * 10 ^ scale = m.natAbs * 10 ^ d.scale := by
    have both := congrArg Int.natAbs crossed
    rwa [Int.natAbs_mul, Int.natAbs_mul, natAbs_coeff, Int.natAbs_pow, Int.natAbs_pow] at both
  rcases Nat.le_total d.scale scale with le | le
  · refine ⟨scale - d.scale, Nat.sub_le _ _, d.magnitude, d.magnitude_lt, ?_⟩
    have pos : 0 < 10 ^ d.scale := Nat.pow_pos (by decide)
    refine Nat.eq_of_mul_eq_mul_right pos ?_
    rw [← sizes, Nat.mul_assoc, ← Nat.pow_add, Nat.sub_add_cancel le]
  · -- the decimal has more digits after its point than the number needs
    refine ⟨0, Nat.zero_le _, m.natAbs, Nat.lt_of_le_of_lt ?_ d.magnitude_lt, by simp⟩
    have pos : 0 < 10 ^ scale := Nat.pow_pos (by decide)
    refine Nat.le_of_mul_le_mul_right ?_ pos
    rw [sizes]
    exact Nat.mul_le_mul_left _ (Nat.pow_le_pow_right (by decide) le)

/-- The number of a coefficient that stands for `gone` digits more. -/
theorem value_of_multiple (negative : Bool) {m gone : Nat} (m_lt : m < coeffBound)
    (bound : scale ≤ maxScale) (whole : n = m * 10 ^ gone) :
    (⟨negative, m, scale, m_lt, bound⟩ : Decimal).value
      = (if negative then -(n : ℚ) else n) / 10 ^ (gone + scale) := by
  rw [value, coeff, whole, pow_add]
  rcases negative <;> simp <;> field_simp

/-- Digits are given up without loss as long as they are zeros. -/
theorem value_fit (negative : Bool) (gone : Nat) (bound : scale ≤ maxScale)
    (fits : ∃ k ≤ scale, ∃ c < coeffBound, n = c * 10 ^ (gone + k)) :
    (fit negative n gone scale bound).value
      = (if negative then -(n : ℚ) else n) / 10 ^ (gone + scale) := by
  obtain ⟨k, k_le, c, c_lt, whole⟩ := fits
  induction scale generalizing gone k with
  | zero =>
    have none_ : k = 0 := Nat.le_zero.mp k_le
    rw [none_, Nat.add_zero] at whole
    have here : nearestEven n (pow10 gone) = c :=
      whole ▸ nearestEven_mul c (Nat.pow_pos (by decide))
    rw [fit, dif_pos (here ▸ c_lt)]
    exact value_of_multiple negative _ _ (here.symm ▸ whole)
  | succ scale ih =>
    have shifted : n = c * 10 ^ k * 10 ^ gone := by
      rw [whole, pow_add]
      ring
    have here : nearestEven n (pow10 gone) = c * 10 ^ k :=
      shifted ▸ nearestEven_mul _ (Nat.pow_pos (by decide))
    rw [fit]
    split
    · exact value_of_multiple negative _ _ (here.symm ▸ shifted)
    · next large =>
      -- what does not fit yet is a multiple of ten
      have some_ : k ≠ 0 := by
        rintro rfl
        rw [here, pow_zero, Nat.mul_one] at large
        exact large c_lt
      obtain ⟨k, rfl⟩ := Nat.exists_eq_succ_of_ne_zero some_
      have power : gone + (k + 1) = gone + 1 + k := by omega
      rw [ih (gone + 1) _ k (by omega) (power ▸ whole)]
      congr 2
      omega

/-! ## Two amounts -/

theorem add_of_left_zero (h : a.magnitude = 0) : a + b = b := if_pos h

theorem add_of_right_zero (left : a.magnitude ≠ 0) (h : b.magnitude = 0) : a + b = a :=
  (if_neg left).trans (if_pos h)

theorem add_of_ne_zero (left : a.magnitude ≠ 0) (right : b.magnitude ≠ 0) :
    a + b =
      fit (a.coeffAt (max a.scale b.scale) + b.coeffAt (max a.scale b.scale) < 0)
        (a.coeffAt (max a.scale b.scale) + b.coeffAt (max a.scale b.scale)).natAbs 0
        (max a.scale b.scale) (Nat.max_le.mpr ⟨a.scale_le, b.scale_le⟩) :=
  (if_neg left).trans (if_neg right)

/-- **An addition is exact** if the exact sum is a decimal, and of course only then. -/
theorem value_add_iff : (a + b).value = a.value + b.value ↔ IsDecimal (a.value + b.value) := by
  constructor
  · intro same
    exact ⟨a + b, same⟩
  intro sum
  by_cases left : a.magnitude = 0
  · rw [add_of_left_zero left, value_of_zero left, zero_add]
  by_cases right : b.magnitude = 0
  · rw [add_of_right_zero left right, value_of_zero right, add_zero]
  have aligned : a.value + b.value
      = ((a.coeffAt (max a.scale b.scale) + b.coeffAt (max a.scale b.scale) : ℤ) : ℚ)
        / 10 ^ max a.scale b.scale := by
    rw [value_eq_coeffAt (Nat.le_max_left a.scale b.scale),
      value_eq_coeffAt (Nat.le_max_right a.scale b.scale), Int.cast_add, add_div]
  rw [aligned] at sum ⊢
  rw [add_of_ne_zero left right]
  generalize a.coeffAt (max a.scale b.scale) + b.coeffAt (max a.scale b.scale) = m at sum ⊢
  obtain ⟨k, k_le, c, c_lt, whole⟩ := sum.exists_multiple
  rw [value_fit _ 0 _ ⟨k, k_le, c, c_lt, by rwa [Nat.zero_add]⟩, Nat.zero_add]
  congr 1
  by_cases negative : m < 0
  · rw [decide_eq_true negative, if_pos rfl, Nat.cast_natAbs, abs_of_neg negative, Int.cast_neg,
      neg_neg]
  · rw [decide_eq_false negative, if_neg Bool.false_ne_true, Nat.cast_natAbs,
      abs_of_nonneg (Int.not_lt.mp negative)]

theorem value_add_comm (a b : Decimal) : (a + b).value = (b + a).value := by
  by_cases left : a.magnitude = 0
  · by_cases right : b.magnitude = 0
    · rw [add_of_left_zero left, add_of_left_zero right, value_of_zero left, value_of_zero right]
    · rw [add_of_left_zero left, add_of_right_zero right left]
  · by_cases right : b.magnitude = 0
    · rw [add_of_right_zero left right, add_of_left_zero right]
    · rw [add_of_ne_zero left right, add_of_ne_zero right left]
      simp only [Nat.max_comm b.scale, Int.add_comm (b.coeffAt _)]

/-! ## Many amounts -/

/-- The exact sum of amounts. -/
def total (ds : List Decimal) : ℚ := (ds.map value).sum

@[simp] theorem total_nil : total [] = 0 := rfl

@[simp] theorem total_cons (d : Decimal) (ds : List Decimal) :
    total (d :: ds) = d.value + total ds := by
  rw [total, List.map_cons, List.sum_cons, total]

@[simp] theorem total_append (ds es : List Decimal) : total (ds ++ es) = total ds + total es := by
  rw [total, List.map_append, List.sum_append, total, total]

variable {ds es : List Decimal}

theorem total_perm (h : ds.Perm es) : total ds = total es := (h.map value).sum_eq

theorem total_nonneg (h : ∀ d ∈ ds, 0 ≤ d.coeff) : 0 ≤ total ds := by
  refine List.sum_nonneg fun q there ↦ ?_
  obtain ⟨d, mem, rfl⟩ := List.mem_map.mp there
  exact value_nonneg (h d mem)

theorem exists_perm_append (h : ds.Subperm es) : ∃ rest, es.Perm (ds ++ rest) :=
  ⟨es.diff ds, (List.subperm_append_diff_self_of_count_le fun d _ ↦ h.count_le d).symm⟩

theorem total_le_of_subperm (h : ds.Subperm es) (nonneg : ∀ d ∈ es, 0 ≤ d.coeff) :
    total ds ≤ total es := by
  obtain ⟨rest, all⟩ := exists_perm_append h
  have others : 0 ≤ total rest :=
    total_nonneg fun d there ↦ nonneg d (all.mem_iff.mpr (List.mem_append_right _ there))
  rw [total_perm all, total_append]
  linarith

/-- **Adding up is exact** if the sum of each part from the beginning is a decimal. -/
theorem value_foldl (t : Decimal)
    (parts : ∀ part, part <+: ds → IsDecimal (t.value + total part)) :
    (ds.foldl (· + ·) t).value = t.value + total ds := by
  induction ds using List.reverseRecOn with
  | nil => simp
  | append_singleton ds d ih =>
    have before := ih fun part start ↦ parts part (start.trans (List.prefix_append ds [d]))
    have all := parts _ (List.prefix_refl _)
    rw [List.foldl_append, List.foldl_cons, List.foldl_nil]
    rw [total_append, ← add_assoc, ← before, total_cons, total_nil, add_zero] at all ⊢
    exact value_add_iff.mpr all

/-! ## Amounts at one scale -/

theorem total_eq_sum_coeffAt (within : ∀ d ∈ ds, d.scale ≤ scale) :
    total ds = ((ds.map (·.coeffAt scale)).sum : ℤ) / 10 ^ scale := by
  induction ds with
  | nil => simp
  | cons d ds ih =>
    rw [total_cons, ih fun d there ↦ within d (List.mem_cons_of_mem _ there),
      value_eq_coeffAt (within d List.mem_cons_self), List.map_cons, List.sum_cons, Int.cast_add,
      add_div]

theorem coeffAt_nonneg (h : 0 ≤ d.coeff) (scale : Nat) : 0 ≤ d.coeffAt scale :=
  Int.mul_nonneg h (Int.natCast_nonneg _)

/-- The largest scale of some amounts. -/
def topScale (ds : List Decimal) : Nat := (ds.map Decimal.scale).foldr max 0

/-- The amounts at the largest of their scales, without their points, added up. -/
def alignedSum (ds : List Decimal) : Int := (ds.map (·.coeffAt (topScale ds))).sum

theorem scale_le_topScale (h : d ∈ ds) : d.scale ≤ topScale ds :=
  List.le_max_of_le' 0 (List.mem_map_of_mem h) (Nat.le_refl _)

theorem topScale_le (ds : List Decimal) : topScale ds ≤ maxScale := by
  refine List.max_le_of_forall_le _ _ fun s there ↦ ?_
  obtain ⟨d, -, rfl⟩ := List.mem_map.mp there
  exact d.scale_le

/-- **Where all amounts fit at their largest scale**, the sum of some of them is a decimal. -/
theorem isDecimal_total_of_subperm (some_ : ds.Subperm es) (nonneg : ∀ d ∈ es, 0 ≤ d.coeff)
    (fits : alignedSum es < coeffBound) : IsDecimal (total ds) := by
  have within : ∀ d ∈ ds, d.scale ≤ topScale es := fun d there ↦
    scale_le_topScale (some_.subset there)
  obtain ⟨rest, all⟩ := exists_perm_append some_
  have part (fs : List Decimal) (from_ : fs ⊆ es) :
      0 ≤ (fs.map (·.coeffAt (topScale es))).sum := by
    refine List.sum_nonneg fun m there ↦ ?_
    obtain ⟨d, mem, rfl⟩ := List.mem_map.mp there
    exact coeffAt_nonneg (nonneg d (from_ mem)) _
  have least := part ds some_.subset
  have others := part rest fun d there ↦ all.mem_iff.mpr (List.mem_append_right _ there)
  have most : (ds.map (·.coeffAt (topScale es))).sum < coeffBound := by
    rw [alignedSum, (all.map _).sum_eq, List.map_append, List.sum_append] at fits
    omega
  rw [total_eq_sum_coeffAt within]
  obtain ⟨m, same⟩ := Int.eq_ofNat_of_zero_le least
  rw [same] at most ⊢
  refine ⟨⟨false, m, topScale es, by exact_mod_cast most, topScale_le es⟩, ?_⟩
  simp [value, coeff]

end Decimal

end PaymentRelay
