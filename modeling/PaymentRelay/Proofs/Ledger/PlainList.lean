import PaymentRelay.Proofs.Ledger.Records

/-!
# A ledger is a plain list of records

Whatever is saved and in whatever order, and however often the ledger is emptied, a summary is what
a plain list of the records would give: take the records of the processor in the period, put them
into the order of their time, those of one millisecond in the order in which they were saved, count
them, and add up their amounts from the first to the last. The order is part of the statement,
because sums are rounded where they do not fit and a different order may give a different total.

A list that is sorted by a key is determined by the sublists of each single key. That is how buckets
and list are compared: both are in the order of time, and for each millisecond both have the same
records in the same order.
-/

namespace PaymentRelay

/-! ## Records in the order of time -/

/-- The records in the order of their time; those of one millisecond stay in the order in which they
are. -/
def chronological (rs : List Record) : List Record := rs.mergeSort fun r r' ↦ r.at_ ≤ r'.at_

theorem pairwise_chronological (rs : List Record) :
    (chronological rs).Pairwise fun r r' ↦ r.at_ ≤ r'.at_ := by
  have sorted : (chronological rs).Pairwise fun r r' ↦ decide (r.at_ ≤ r'.at_) = true :=
    List.pairwise_mergeSort (fun a b c ↦ by simpa using Int.le_trans)
      (fun a b ↦ by simpa using Int.le_total a.at_ b.at_) rs
  exact sorted.imp of_decide_eq_true

@[simp] theorem chronological_nil : chronological [] = [] := List.mergeSort_nil

theorem length_chronological (rs : List Record) : (chronological rs).length = rs.length :=
  List.length_mergeSort rs

/-- Sorting leaves the records of one millisecond in their order. -/
theorem filter_chronological (rs : List Record) (k : Millis) :
    (chronological rs).filter (·.at_ = k) = rs.filter (·.at_ = k) := by
  have equal : (rs.filter (·.at_ = k)).Pairwise fun r r' ↦ decide (r.at_ ≤ r'.at_) = true := by
    refine List.pairwise_of_forall_mem_list fun r hr r' hr' ↦ ?_
    have at_ : r.at_ = k := by simpa using (List.mem_filter.mp hr).2
    have at_' : r'.at_ = k := by simpa using (List.mem_filter.mp hr').2
    simp [at_, at_']
  have sub : (rs.filter (·.at_ = k)).Sublist (chronological rs) :=
    List.sublist_mergeSort (fun a b c ↦ by simpa using Int.le_trans)
      (fun a b ↦ by simpa using Int.le_total a.at_ b.at_) equal List.filter_sublist
  -- so they are a sublist of what is kept of the sorted list, and as long
  have kept := sub.filter (·.at_ = k)
  rw [List.filter_filter] at kept
  have same : (rs.filter fun r ↦ decide (r.at_ = k) && decide (r.at_ = k))
      = rs.filter (·.at_ = k) := by simp
  rw [same] at kept
  refine (kept.eq_of_length ?_).symm
  exact ((List.mergeSort_perm rs _).filter _).length_eq.symm

/-- A list in the order of time is determined by its records of each single millisecond. -/
theorem eq_of_filter_eq {rs rs' : List Record} (h : rs.Pairwise fun r r' ↦ r.at_ ≤ r'.at_)
    (h' : rs'.Pairwise fun r r' ↦ r.at_ ≤ r'.at_)
    (same : ∀ k, rs.filter (·.at_ = k) = rs'.filter (·.at_ = k)) : rs = rs' := by
  -- each list has the first record of the other, so neither begins later
  have mem {l l' : List Record} (same : ∀ k, l.filter (·.at_ = k) = l'.filter (·.at_ = k))
      {r : Record} (hr : r ∈ l) : r ∈ l' := by
    have : r ∈ l.filter (·.at_ = r.at_) := List.mem_filter.mpr ⟨hr, by simp⟩
    rw [same] at this
    exact (List.mem_filter.mp this).1
  induction rs generalizing rs' with
  | nil =>
    cases rs' with
    | nil => rfl
    | cons r' rs' => exact absurd (mem (fun k ↦ (same k).symm) List.mem_cons_self) List.not_mem_nil
  | cons r rs ih =>
    cases rs' with
    | nil => exact absurd (mem same List.mem_cons_self) List.not_mem_nil
    | cons r' rs' =>
      obtain ⟨head, tail⟩ := List.pairwise_cons.mp h
      obtain ⟨head', tail'⟩ := List.pairwise_cons.mp h'
      have at_ : r.at_ = r'.at_ := by
        refine Int.le_antisymm ?_ ?_
        · rcases List.mem_cons.mp (mem (fun k ↦ (same k).symm) (r := r') List.mem_cons_self)
            with rfl | hr
          · exact Int.le_refl _
          · exact head r' hr
        · rcases List.mem_cons.mp (mem same (r := r) List.mem_cons_self) with rfl | hr
          · exact Int.le_refl _
          · exact head' r hr
      have first := same r.at_
      rw [List.filter_cons_of_pos (by simp), List.filter_cons_of_pos (by simp [at_])] at first
      obtain ⟨rfl, -⟩ := List.cons.inj first
      refine congrArg (List.cons r) (ih tail tail' fun k ↦ ?_)
      have rest := same k
      by_cases here : r.at_ = k
      · rw [List.filter_cons_of_pos (by simpa using here),
          List.filter_cons_of_pos (by simpa using here)] at rest
        exact (List.cons.inj rest).2
      · rw [List.filter_cons_of_neg (by simpa using here),
          List.filter_cons_of_neg (by simpa using here)] at rest
        exact rest

/-! ## A ledger and a list -/

namespace Ledger

/-- What can be done to a ledger. -/
inductive Op where
  /-- A payment is recorded. -/
  | save (record : Record)
  /-- The ledger is emptied. -/
  | purge
deriving DecidableEq, Repr

def apply (l : Ledger) : Op → Ledger
  | .save r => l.save r.source r.at_ r.amount
  | .purge => .empty

def after (l : Ledger) (ops : List Op) : Ledger := ops.foldl apply l

/-- A plain list of records after an operation. -/
def keep (rs : List Record) : Op → List Record
  | .save r => rs ++ [r]
  | .purge => []

/-- The records saved since the last purge, in the order in which they were saved. -/
def kept (ops : List Op) : List Record := ops.foldl keep []

/-- A ledger in order has the records of a plain list: those of each millisecond are the same and in
the same order. -/
structure Mirrors (l : Ledger) (rs : List Record) : Prop where
  ordered : ∀ source, (l.get source).Ordered
  records : ∀ source k, ((l.get source).records source).filter (·.at_ = k)
    = (rs.filter (·.source = source)).filter (·.at_ = k)

theorem mirrors_empty : Mirrors .empty [] where
  ordered source := by cases source <;> exact Timeline.ordered_nil
  records source k := by cases source <;> rfl

theorem get_save (l : Ledger) (source other : Source) (t : Millis) (amount : Decimal) :
    (l.save source t amount).get other
      = if other = source then (l.get source).save t amount else l.get other := by
  rw [save]
  by_cases same : other = source
  · rw [if_pos same, same, PerSource.get_set_self]
  · rw [if_neg same, PerSource.get_set_of_ne _ _ same]

theorem Mirrors.apply {l : Ledger} {rs : List Record} (h : Mirrors l rs) (op : Op) :
    Mirrors (l.apply op) (keep rs op) := by
  cases op with
  | purge => exact mirrors_empty
  | save r =>
    constructor
    · intro source
      rw [Ledger.apply, get_save]
      split
      · exact (h.ordered r.source).save r.at_ r.amount
      · exact h.ordered source
    · intro source k
      rw [Ledger.apply, get_save, keep, List.filter_append, List.filter_append, ← h.records]
      by_cases same : source = r.source
      · subst same
        rw [if_pos rfl, Timeline.filter_records_save]
        by_cases here : r.at_ = k
        · simp [← here]
        · simp [here]
      · rw [if_neg same]
        simp [Ne.symm same]

theorem mirrors_after (ops : List Op) : Mirrors (empty.after ops) (kept ops) := by
  have run {l : Ledger} {rs : List Record} (h : Mirrors l rs) :
      Mirrors (l.after ops) (ops.foldl keep rs) := by
    induction ops generalizing l rs with
    | nil => exact h
    | cons op ops ih => exact ih (h.apply op)
  exact run mirrors_empty

theorem Mirrors.within {l : Ledger} {rs : List Record} (h : Mirrors l rs) (source : Source)
    (first last : Millis) :
    ((l.get source).within first last).flatMap (Bucket.records source)
      = chronological
          (rs.filter fun r ↦ r.source = source ∧ first ≤ r.at_ ∧ r.at_ ≤ last) := by
  rw [Timeline.flatMap_within]
  refine eq_of_filter_eq (((h.ordered source).pairwise_records source).filter _)
    (pairwise_chronological _) fun k ↦ ?_
  -- a millisecond lies in the period with all its records, or with none
  have narrow (l : List Record) (p : Record → Bool) (inside : Bool)
      (hp : ∀ r ∈ l.filter (·.at_ = k), p r = inside) :
      (l.filter p).filter (·.at_ = k) = if inside then l.filter (·.at_ = k) else [] := by
    have turned : (l.filter p).filter (·.at_ = k) = (l.filter (·.at_ = k)).filter p := by
      rw [List.filter_filter, List.filter_filter]
      exact List.filter_congr fun r _ ↦ Bool.and_comm _ _
    rw [turned]
    cases inside with
    | true => exact List.filter_eq_self.mpr hp
    | false => exact List.filter_eq_nil_iff.mpr fun r hr ↦ by simp [hp r hr]
  have split : (rs.filter fun r ↦ r.source = source ∧ first ≤ r.at_ ∧ r.at_ ≤ last)
      = (rs.filter (·.source = source)).filter fun r ↦ first ≤ r.at_ ∧ r.at_ ≤ last := by
    rw [List.filter_filter]
    refine List.filter_congr fun r _ ↦ ?_
    rw [Bool.and_comm, ← Bool.decide_and]
  have inside (l : List Record) (r : Record) (hr : r ∈ l.filter (·.at_ = k)) :
      decide (first ≤ r.at_ ∧ r.at_ ≤ last) = decide (first ≤ k ∧ k ≤ last) := by
    have at_ : r.at_ = k := by simpa using (List.mem_filter.mp hr).2
    rw [at_]
  rw [filter_chronological, split, narrow _ _ _ (inside _), narrow _ _ _ (inside _), h.records]

/-- A summary is that of the records since the last purge that lie in the period. -/
theorem tally_after (ops : List Op) (source : Source) (first last : Millis) :
    let found := (kept ops).filter fun r ↦ r.source = source ∧ first ≤ r.at_ ∧ r.at_ ≤ last
    (empty.after ops).tally source first last = Tally.upTo found.length
      (((chronological found).map Record.amount).foldl (· + ·) .zero) := by
  intro found
  by_cases inverted : last < first
  · have none : found = [] := by
      refine List.filter_eq_nil_iff.mpr fun r _ within ↦ ?_
      obtain ⟨-, after, before⟩ := of_decide_eq_true within
      exact absurd (Int.le_trans after before) (Int.not_le.mpr inverted)
    rw [none, Ledger.tally, if_pos inverted, chronological_nil]
    rfl
  · have buckets := (mirrors_after ops).within source first last
    have amounts : ((empty.after ops).get source |>.within first last).flatMap
        (·.amounts.toList) = (chronological found).map Record.amount := by
      rw [← buckets, List.map_flatMap]
      simp
    have zero : Tally.zero.requests = 0 := rfl
    rw [Ledger.tally, if_neg inverted, Timeline.tally, foldl_count, amounts, List.length_map,
      length_chronological, zero, Nat.zero_add]
    rfl

theorem tally_save_of_ne (l : Ledger) {source other : Source} (apart : other ≠ source)
    (t : Millis) (amount : Decimal) (first last : Millis) :
    (l.save other t amount).tally source first last = l.tally source first last := by
  rw [Ledger.tally, Ledger.tally, get_save, if_neg (Ne.symm apart)]

/-- **A summary is that of a plain list.** After any saves and purges, count and total of a
processor in a period are those of its records since the last purge that lie in the period, added up
in the order of time and, within a millisecond, of saving. The count is exact as long as it has 64
bits, and would stop there. An inverted period holds nothing, and recording a payment of one
processor makes no difference to the other. -/
theorem tally_of_plain_list (ops : List Op) (source : Source) (first last : Millis) :
    let found := (kept ops).filter fun r ↦ r.source = source ∧ first ≤ r.at_ ∧ r.at_ ≤ last
    let tally := (empty.after ops).tally source first last
    (found.length < Numeral.limit64 → tally.requests = found.length) ∧
      tally.requests = min found.length (Numeral.limit64 - 1) ∧
      tally.amount = ((chronological found).map Record.amount).foldl (· + ·) .zero ∧
      (last < first → tally = .zero) ∧
      ∀ other t amount, other ≠ source →
        ((empty.after ops).save other t amount).tally source first last = tally := by
  intro found tally
  have total : tally = Tally.upTo found.length
      (((chronological found).map Record.amount).foldl (· + ·) .zero) :=
    tally_after ops source first last
  have count : tally.requests = min found.length (Numeral.limit64 - 1) :=
    congrArg Tally.requests total
  refine ⟨fun fits ↦ ?_, count, congrArg Tally.amount total, fun inverted ↦ if_pos inverted,
    fun other t amount apart ↦ tally_save_of_ne _ apart t amount first last⟩
  rw [count]
  omega

end Ledger

end PaymentRelay
