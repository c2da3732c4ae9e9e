import PaymentRelay.Gateway.Summaries
import PaymentRelay.Proofs.Ledger.Totals

/-!
# Two ledgers as one

A merged summary is to be what a single gateway would tell that had taken all payments of both.
Counts are added and stop at the same number whether they are added in two steps or in one. Amounts
are added in the order of time, and the two gateways' payments may alternate there; so the sums on
the way differ, and the totals agree only if none of them is rounded. They are exact where the
amounts of both, all written with as many digits after the point as any of them, add up to less
than 96 bits: then the sum of any part is a decimal.

The totals are compared as numbers. How many zeros stand at the end of a total may depend on the
way.
-/

namespace PaymentRelay

/-- The same count, and amounts that are the same number. -/
def Tally.Same (t u : Tally) : Prop := t.requests = u.requests ∧ t.amount.value = u.amount.value

/-- The same counts and numbers for each processor. -/
def Summary.Same (s t : Summary) : Prop := ∀ source, (s.get source).Same (t.get source)

theorem Tally.requests_add (t u : Tally) :
    (t + u).requests = min (t.requests + u.requests) (Numeral.limit64 - 1) := rfl

theorem Tally.amount_add (t u : Tally) : (t + u).amount = t.amount + u.amount := rfl

theorem Tally.same_add_comm (t u : Tally) : (t + u).Same (u + t) := by
  constructor
  · rw [requests_add, requests_add, Nat.add_comm]
  · rw [amount_add, amount_add, Decimal.value_add_comm]

theorem Summary.get_merge (s t : Summary) (source : Source) :
    (s.merge t).get source = s.get source + t.get source := by
  cases source <;> rfl

theorem Summary.same_merge_comm (s t : Summary) : (s.merge t).Same (t.merge s) := by
  intro source
  rw [get_merge, get_merge]
  exact Tally.same_add_comm _ _

namespace Ledger

open Decimal (IsDecimal total alignedSum)

theorem get_summary (l : Ledger) (first last : Millis) (source : Source) :
    (l.summary first last).get source = l.tally source first last := by
  cases source <;> rfl

variable {opsA opsB opsC : List Op} {source : Source} {first last : Millis}

theorem requests_tally (ops : List Op) (source : Source) (first last : Millis) :
    ((empty.after ops).tally source first last).requests
      = min (amountsIn (kept ops) source first last).length (Numeral.limit64 - 1) := by
  rw [tally_after, amountsIn, List.length_map]
  rfl

/-- The tallies of two ledgers together are that of a ledger with the payments of both, as long as
no sum is rounded. -/
theorem tally_add_same (both : (kept opsC).Perm (kept opsA ++ kept opsB))
    (nonneg : ∀ r ∈ kept opsA ++ kept opsB, 0 ≤ r.amount.coeff)
    (fits : alignedSum (amountsIn (kept opsA ++ kept opsB) source first last)
      < coeffBound) :
    ((empty.after opsA).tally source first last + (empty.after opsB).tally source first last).Same
      ((empty.after opsC).tally source first last) := by
  have together : amountsIn (kept opsA ++ kept opsB) source first last
      = amountsIn (kept opsA) source first last ++ amountsIn (kept opsB) source first last :=
    amountsIn_append _ _
  have saved : (amountsIn (kept opsC) source first last).Perm
      (amountsIn (kept opsA ++ kept opsB) source first last) := amountsIn_perm both
  -- no part of the payments of both is rounded, so none of either's is
  have part {some_ : List Decimal}
      (among : some_.Subperm (amountsIn (kept opsA ++ kept opsB) source first last)) :
      IsDecimal (total some_) := by
    refine Decimal.isDecimal_total_of_subperm among (fun d there ↦ ?_) fits
    obtain ⟨r, mem, rfl⟩ := List.mem_map.mp ((amountsIn_sublist _ _ _ _).subset there)
    exact nonneg r mem
  have inA : (amountsIn (kept opsA) source first last).Sublist
      (amountsIn (kept opsA ++ kept opsB) source first last) := by
    rw [together]
    exact List.sublist_append_left _ _
  have inB : (amountsIn (kept opsB) source first last).Sublist
      (amountsIn (kept opsA ++ kept opsB) source first last) := by
    rw [together]
    exact List.sublist_append_right _ _
  have amountA := value_tally opsA fun some_ within ↦ part (within.trans inA.subperm)
  have amountB := value_tally opsB fun some_ within ↦ part (within.trans inB.subperm)
  have amountC := value_tally opsC fun some_ within ↦ part (within.trans saved.subperm)
  have sum : total (amountsIn (kept opsA ++ kept opsB) source first last)
      = total (amountsIn (kept opsA) source first last)
        + total (amountsIn (kept opsB) source first last) := by
    rw [together, Decimal.total_append]
  constructor
  · rw [Tally.requests_add, requests_tally, requests_tally, requests_tally, saved.length_eq,
      together, List.length_append]
    omega
  · have exact_ := part (List.Subperm.refl _)
    rw [sum, ← amountA, ← amountB] at exact_
    rw [Tally.amount_add, Decimal.value_add_iff.mpr exact_, amountA, amountB, amountC,
      Decimal.total_perm saved, sum]

end Ledger

namespace Gateway

variable {α : Type}

open Ledger (Op kept amountsIn)

theorem get_localSummary (g : Gateway α) (w : Window) (source : Source) :
    (g.localSummary w).get source = g.ledger.tally source w.start.toMillis w.stop.toMillis :=
  Ledger.get_summary _ _ _ _

/-- **Two gateways' summaries merged are that of one gateway with the payments of both.** One
gateway has saved some payments, another has saved others, and a third has saved just these, in
whatever order. In a period in which the amounts of each processor, at the largest of their scales,
add up to less than 96 bits, the summaries of the first two merged are the third's, the same counts
and the same numbers, whichever of the two is merged into the other.

For any summaries at all, the order in which they are merged makes no difference to counts and
numbers, a count is the sum or the greatest 64-bit number, and the tally of a processor depends on
nothing but that processor's tallies. -/
theorem merged_eq_combined {a b c : Gateway α} {opsA opsB opsC : List Op} (w : Window)
    (savedA : a.ledger = .after .empty opsA) (savedB : b.ledger = .after .empty opsB)
    (savedC : c.ledger = .after .empty opsC) (both : (kept opsC).Perm (kept opsA ++ kept opsB))
    (nonneg : ∀ r ∈ kept opsA ++ kept opsB, 0 ≤ r.amount.coeff)
    (fits : ∀ source, Decimal.alignedSum
      (amountsIn (kept opsA ++ kept opsB) source w.start.toMillis w.stop.toMillis)
        < coeffBound) :
    ((a.localSummary w).merge (b.localSummary w)).Same (c.localSummary w) ∧
      ((a.localSummary w).merge (b.localSummary w)).Same
        ((b.localSummary w).merge (a.localSummary w)) ∧
      ∀ s t : Summary, (s.merge t).Same (t.merge s) ∧
        (∀ source, ((s.merge t).get source).requests
          = min ((s.get source).requests + (t.get source).requests) (2 ^ 64 - 1)) ∧
        ∀ s' t' : Summary, ∀ source, s'.get source = s.get source →
          t'.get source = t.get source → (s'.merge t').get source = (s.merge t).get source := by
  refine ⟨fun source ↦ ?_, Summary.same_merge_comm _ _, fun s t ↦ ⟨Summary.same_merge_comm s t,
    fun source ↦ ?_, fun s' t' source first second ↦ ?_⟩⟩
  · rw [Summary.get_merge, get_localSummary, get_localSummary, get_localSummary, savedA, savedB,
      savedC]
    exact Ledger.tally_add_same both nonneg (fits source)
  · rw [Summary.get_merge, Tally.requests_add]
    rfl
  · rw [Summary.get_merge, Summary.get_merge, first, second]

/-- Two gateways have taken payments in turn. Their summaries merged are that of a gateway that has
saved all four, the latest first. -/
theorem merged_eq_combined_of_four_payments :
    let cents : Decimal := ⟨false, 1990, 2, by decide, by decide⟩
    let mills : Decimal := ⟨false, 5, 3, by decide, by decide⟩
    let opsA : List Op := [.save ⟨.main, 1, cents⟩, .save ⟨.main, 3, mills⟩]
    let opsB : List Op := [.save ⟨.main, 2, mills⟩, .save ⟨.fallback, 4, cents⟩]
    let opsC : List Op := [.save ⟨.fallback, 4, cents⟩, .save ⟨.main, 3, mills⟩,
      .save ⟨.main, 2, mills⟩, .save ⟨.main, 1, cents⟩]
    let g : Gateway String := new ⟨false, 1, 1, 5⟩
    let a : Gateway String := { g with ledger := .after .empty opsA }
    let b : Gateway String := { g with ledger := .after .empty opsB }
    let c : Gateway String := { g with ledger := .after .empty opsC }
    let w : Window := ⟨⟨0, 0⟩, ⟨60, 0⟩⟩
    ((a.localSummary w).merge (b.localSummary w)).Same (c.localSummary w) ∧
      ((c.localSummary w).get .main).requests = 3 := by
  intro cents mills opsA opsB opsC g a b c w
  have both : (kept opsC).Perm (kept opsA ++ kept opsB) := by decide
  have nonneg : ∀ r ∈ kept opsA ++ kept opsB, 0 ≤ r.amount.coeff := by decide
  have fits : ∀ source, Decimal.alignedSum
      (amountsIn (kept opsA ++ kept opsB) source w.start.toMillis w.stop.toMillis)
        < coeffBound := by
    rintro (_ | _) <;> decide
  obtain ⟨same, -, -⟩ :=
    merged_eq_combined (a := a) (b := b) (c := c) w rfl rfl rfl both nonneg fits
  exact ⟨same, by decide⟩

end Gateway

end PaymentRelay
