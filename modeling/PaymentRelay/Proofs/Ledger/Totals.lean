import Mathlib.Tactic.NormNum
import PaymentRelay.Payment.Payload
import PaymentRelay.Proofs.Decimal.Sums
import PaymentRelay.Proofs.Ledger.PlainList

/-!
# When totals are exact

A total is added up payment by payment, and each addition rounds where the sum is no decimal. What
is added up, and in which order, is settled by when the payments were saved and by the period that
is asked for, and any of the payments can be the first ones: so the totals of some payments are
exact, whenever they are saved and whatever is asked for, if and only if the sum of every part of
them is a decimal.

The bounds that a single payment keeps do not make it so. They keep totals far from the greatest
decimal, but they say nothing about the digits after the point: a million million leaves room for
sixteen of them, and a payment may have twenty-eight. Such a payment is rounded away, and many of
them may be, one after the other, even where their sum would fit.
-/

namespace PaymentRelay

namespace Payload

/-- An amount that a payment can have: some payload is read as a payment of this amount. -/
def Admits (a : Decimal) : Prop := ∃ payload id, read payload = .ok ⟨id, a⟩

theorem negative_of_read {payload : String} {p : Payment} (h : read payload = .ok p) :
    p.amount.negative = false :=
  (read_eq_ok_iff.mp h).2.2.1

theorem Admits.coeff_nonneg {a : Decimal} (h : Admits a) : 0 ≤ a.coeff := by
  obtain ⟨payload, id, read⟩ := h
  rw [Decimal.coeff, negative_of_read read]
  exact Int.natCast_nonneg _

end Payload

namespace Ledger

open Decimal (IsDecimal total)

/-- The amounts of a processor in a period, as they were saved. -/
def amountsIn (rs : List Record) (source : Source) (first last : Millis) : List Decimal :=
  (rs.filter fun r ↦ r.source = source ∧ first ≤ r.at_ ∧ r.at_ ≤ last).map Record.amount

variable {source : Source} {first last : Millis} {rs rs' : List Record}

theorem amountsIn_sublist (rs : List Record) (source : Source) (first last : Millis) :
    (amountsIn rs source first last).Sublist (rs.map Record.amount) :=
  List.filter_sublist.map _

theorem amountsIn_perm (h : rs.Perm rs') :
    (amountsIn rs source first last).Perm (amountsIn rs' source first last) :=
  (h.filter _).map _

@[simp] theorem amountsIn_append (rs rs' : List Record) :
    amountsIn (rs ++ rs') source first last
      = amountsIn rs source first last ++ amountsIn rs' source first last := by
  simp [amountsIn]

theorem amountsIn_of_saved_at (amounts : List Decimal) (t : Millis) :
    amountsIn (amounts.map fun a ↦ ⟨source, t, a⟩) source first last
      = if first ≤ t ∧ t ≤ last then amounts else [] := by
  rw [amountsIn, List.filter_map, List.map_map]
  by_cases within : first ≤ t ∧ t ≤ last
  · simp [within, Function.comp_def]
  · simp [within, Function.comp_def]

/-- **A total is exact** if the sum of every part of the amounts is a decimal. -/
theorem value_tally (ops : List Op)
    (parts : ∀ some_, some_.Subperm (amountsIn (kept ops) source first last) →
      IsDecimal (total some_)) :
    ((empty.after ops).tally source first last).amount.value
      = total (amountsIn (kept ops) source first last) := by
  have order : ((chronological ((kept ops).filter fun r ↦
      r.source = source ∧ first ≤ r.at_ ∧ r.at_ ≤ last)).map Record.amount).Perm
        (amountsIn (kept ops) source first last) := (List.mergeSort_perm _ _).map _
  have amount := congrArg Tally.amount (tally_after ops source first last)
  rw [amount, Tally.upTo, Decimal.value_foldl, Decimal.value_zero, zero_add,
    Decimal.total_perm order]
  intro part start
  rw [Decimal.value_zero, zero_add]
  exact parts part (start.sublist.subperm.trans order.subperm)

theorem kept_saves (rs : List Record) : kept (rs.map Op.save) = rs := by
  have onto (before : List Record) : (rs.map Op.save).foldl keep before = before ++ rs := by
    induction rs generalizing before with
    | nil => simp
    | cons r rs ih => simp [ih, keep]
  exact onto []

theorem exists_amountsIn {amounts some_ : List Decimal} (h : some_.Subperm amounts) :
    ∃ ops, ((kept ops).map Record.amount).Perm amounts ∧
      amountsIn (kept ops) .main 0 0 = some_ := by
  obtain ⟨rest, all⟩ := Decimal.exists_perm_append h
  let saved : List Record := (some_.map fun a ↦ ⟨.main, 0, a⟩) ++ rest.map fun a ↦ ⟨.main, 1, a⟩
  refine ⟨saved.map Op.save, ?_, ?_⟩
  · rw [kept_saves, List.map_append, List.map_map, List.map_map]
    simpa [Function.comp_def] using all.symm
  · rw [kept_saves, amountsIn_append, amountsIn_of_saved_at, amountsIn_of_saved_at]
    simp

/-- **When the totals of admitted payments are exact.** Some payments are saved in whatever order
and at whatever times. All their totals that stay below the greatest decimal are the exact sums, for
every such ledger, processor and period, if and only if the sum of every part of the payments that
stays below it is a decimal: a number that has at most 28 digits after its point and, without the
point, at most 96 bits. -/
theorem totals_exact_iff {amounts : List Decimal} (admitted : ∀ a ∈ amounts, Payload.Admits a) :
    (∀ (ops : List Op) (source : Source) (first last : Millis),
        ((kept ops).map Record.amount).Perm amounts →
        total (amountsIn (kept ops) source first last) < Decimal.greatest.value →
        ((empty.after ops).tally source first last).amount.value
          = total (amountsIn (kept ops) source first last)) ↔
      ∀ some_ : List Decimal, some_.Subperm amounts → total some_ < Decimal.greatest.value →
        IsDecimal (total some_) := by
  have nonneg : ∀ a ∈ amounts, 0 ≤ a.coeff := fun a there ↦ (admitted a there).coeff_nonneg
  constructor
  · intro exact_ some_ part below
    obtain ⟨ops, saved, here⟩ := exists_amountsIn part
    have same := exact_ ops .main 0 0 saved
    rw [here] at same
    exact ⟨_, same below⟩
  · intro parts ops source first last saved below
    have among : (amountsIn (kept ops) source first last).Subperm amounts :=
      (amountsIn_sublist _ source first last).subperm.trans saved.subperm
    refine value_tally ops fun some_ part ↦ parts some_ (part.trans among) ?_
    have less := Decimal.total_le_of_subperm part fun a there ↦ nonneg a (among.subset there)
    exact lt_of_le_of_lt less below

def trillion : Decimal := ⟨false, 1000000000000, 0, by decide, Decimal.zero.scale_le⟩

/-- An amount with sixteen digits after its point: a million million leaves room for these. -/
def grain : Decimal := ⟨false, 1, 16, by decide, by decide⟩

/-- Half of that amount, with one digit more: a million million leaves no room for it. -/
def dust : Decimal := ⟨false, 5, 17, by decide, by decide⟩

theorem admits_amounts :
    Payload.Admits trillion ∧ Payload.Admits grain ∧ Payload.Admits dust :=
  ⟨⟨"\x7b\"correlationId\":\"a\",\"amount\":1000000000000\x7d", "a", by decide +kernel⟩,
    ⟨"\x7b\"correlationId\":\"b\",\"amount\":0.0000000000000001\x7d", "b", by decide +kernel⟩,
    ⟨"\x7b\"correlationId\":\"c\",\"amount\":0.00000000000000005\x7d", "c", by decide +kernel⟩⟩

/-- A million million and two amounts with sixteen digits after their points: their totals are exact
in whatever order they are saved. -/
theorem totals_with_sixteen_digits_exact :
    Payload.Admits trillion ∧ Payload.Admits grain ∧
      ∀ (ops : List Op) (source : Source) (first last : Millis),
        ((kept ops).map Record.amount).Perm [trillion, grain, grain] →
        total (amountsIn (kept ops) source first last) < Decimal.greatest.value →
        ((empty.after ops).tally source first last).amount.value
          = total (amountsIn (kept ops) source first last) := by
  obtain ⟨large, small, -⟩ := admits_amounts
  have admitted : ∀ a ∈ [trillion, grain, grain], Payload.Admits a := by simp [large, small]
  refine ⟨large, small, (totals_exact_iff admitted).mpr fun some_ part _ ↦ ?_⟩
  exact Decimal.isDecimal_total_of_subperm part (by decide) (by decide)

/-- A million million is saved, and then twice half a unit of the last digit for which it leaves
room. All three are admitted, and their sum is a decimal; but each half is rounded away, and the
total is that of the first alone. -/
theorem dust_rounded_away :
    Payload.Admits trillion ∧ Payload.Admits dust ∧
      let ops : List Op :=
        [.save ⟨.main, 1, trillion⟩, .save ⟨.main, 2, dust⟩, .save ⟨.main, 3, dust⟩]
      total (amountsIn (kept ops) .main 0 10) = 1000000000000 + 1 / 10 ^ 16 ∧
        IsDecimal (total (amountsIn (kept ops) .main 0 10)) ∧
        total (amountsIn (kept ops) .main 0 10) < Decimal.greatest.value ∧
        ((empty.after ops).tally .main 0 10).amount.value = 1000000000000 ∧
        ((empty.after ops).tally .main 0 10).amount.value
          ≠ total (amountsIn (kept ops) .main 0 10) := by
  obtain ⟨large, -, small⟩ := admits_amounts
  refine ⟨large, small, ?_⟩
  intro ops
  have amounts : amountsIn (kept ops) .main 0 10 = [trillion, dust, dust] := by decide
  have sum : total [trillion, dust, dust] = 1000000000000 + 1 / 10 ^ 16 := by
    norm_num [trillion, dust, Decimal.value, Decimal.coeff]
  have greatest : Decimal.greatest.value = 79228162514264337593543950335 := by
    norm_num [Decimal.greatest, Decimal.value, Decimal.coeff, coeffBound]
  have rounded : ((empty.after ops).tally .main 0 10).amount
      = ⟨false, 10000000000000000000000000000, 16, by decide, by decide⟩ := by decide
  rw [amounts, sum, greatest, rounded]
  refine ⟨rfl, ⟨⟨false, 10000000000000000000000000001, 16, by decide, by decide⟩, ?_⟩, ?_, ?_, ?_⟩
  · norm_num [Decimal.value, Decimal.coeff]
  · norm_num
  · norm_num [Decimal.value, Decimal.coeff]
  · norm_num [Decimal.value, Decimal.coeff]

end Ledger

end PaymentRelay
