import PaymentRelay.Ledger

/-!
# The ledger as a list of records

A ledger keeps its payments in buckets, one list of buckets for each processor. What it holds is a
list of records: of each payment the processor that took it, its millisecond and its amount. The
list is read off bucket by bucket, the earliest first, and recording a payment adds one record to it
and changes nothing else about it.

Two facts about the order are used where a summary is compared with the records. Buckets stand in
the order of their time, so the records read off them do; and recording a payment puts its record
behind all others of its millisecond.
-/

namespace PaymentRelay

/-- A recorded payment. -/
structure Record where
  source : Source
  at_ : Millis
  amount : Decimal
deriving DecidableEq, Repr

/-- The records of a bucket, in the order of recording. -/
def Bucket.records (source : Source) (b : Bucket) : List Record :=
  b.amounts.toList.map fun amount ↦ ⟨source, b.at_, amount⟩

@[simp] theorem Bucket.map_amount_records (source : Source) (b : Bucket) :
    (b.records source).map Record.amount = b.amounts.toList := by
  simp [Bucket.records, Function.comp_def]

theorem Bucket.at_of_mem_records {source : Source} {b : Bucket} {r : Record}
    (h : r ∈ b.records source) : r.at_ = b.at_ := by
  obtain ⟨amount, -, rfl⟩ := List.mem_map.mp h
  rfl

namespace Timeline

variable {source : Source} {tl : Timeline}

/-- All records of a processor, the earliest first. -/
def records (source : Source) (tl : Timeline) : List Record :=
  tl.reverse.flatMap (Bucket.records source)

@[simp] theorem records_nil (source : Source) : records source [] = [] := rfl

@[simp] theorem records_cons (source : Source) (b : Bucket) (bs : Timeline) :
    records source (b :: bs) = records source bs ++ b.records source := by
  simp [records]

theorem at_of_mem_records {r : Record} (h : r ∈ tl.records source) : ∃ b ∈ tl, b.at_ = r.at_ := by
  obtain ⟨b, hb, h⟩ := List.mem_flatMap.mp h
  exact ⟨b, List.mem_reverse.mp hb, (Bucket.at_of_mem_records h).symm⟩

theorem flatMap_within (source : Source) (first last : Millis) (tl : Timeline) :
    (tl.within first last).flatMap (Bucket.records source)
      = (tl.records source).filter fun r ↦ first ≤ r.at_ ∧ r.at_ ≤ last := by
  induction tl with
  | nil => rfl
  | cons b bs ih =>
    -- a bucket lies in the period with all its records, or with none
    have one : (b.records source).filter (fun r ↦ first ≤ r.at_ ∧ r.at_ ≤ last)
        = if first ≤ b.at_ ∧ b.at_ ≤ last then b.records source else [] := by
      by_cases within : first ≤ b.at_ ∧ b.at_ ≤ last
      · rw [if_pos within, List.filter_eq_self]
        intro r hr
        simpa [Bucket.at_of_mem_records hr] using within
      · rw [if_neg within, List.filter_eq_nil_iff]
        intro r hr
        simpa [Bucket.at_of_mem_records hr] using within
    rw [records_cons, List.filter_append, ← ih, one, Timeline.within, Timeline.within,
      List.filter_cons]
    by_cases within : first ≤ b.at_ ∧ b.at_ ≤ last
    · simp [within]
    · simp [within]

/-! ## Recording a payment -/

theorem records_save_perm (source : Source) (t : Millis) (amount : Decimal) (tl : Timeline) :
    ((tl.save t amount).records source).Perm (⟨source, t, amount⟩ :: tl.records source) := by
  have last (rs : List Record) :
      (rs ++ [(⟨source, t, amount⟩ : Record)]).Perm (⟨source, t, amount⟩ :: rs) :=
    List.perm_append_comm
  induction tl with
  | nil => exact List.Perm.refl _
  | cons b bs ih =>
    rw [save]
    by_cases later : b.at_ < t
    · rw [if_pos later, records_cons]
      exact last _
    by_cases same : b.at_ = t
    · subst same
      rw [if_neg later, if_pos rfl, records_cons, records_cons]
      simp only [Bucket.records, Array.toList_push, List.map_append, List.map_singleton,
        ← List.append_assoc]
      exact last _
    · rw [if_neg later, if_neg same, records_cons, records_cons]
      exact ih.append_right _

/-- A recorded payment stands behind all others of its millisecond. -/
theorem filter_records_save (source : Source) (t : Millis) (amount : Decimal) (tl : Timeline)
    (k : Millis) :
    ((tl.save t amount).records source).filter (·.at_ = k)
      = (tl.records source).filter (·.at_ = k)
        ++ if t = k then [⟨source, t, amount⟩] else [] := by
  have single : ([⟨source, t, amount⟩] : List Record).filter (·.at_ = k)
      = if t = k then [⟨source, t, amount⟩] else [] := by
    by_cases here : t = k <;> simp [here]
  induction tl with
  | nil => exact single
  | cons b bs ih =>
    rw [save]
    by_cases later : b.at_ < t
    · rw [if_pos later, records_cons, List.filter_append, ← single]
      rfl
    by_cases same : b.at_ = t
    · subst same
      rw [if_neg later, if_pos rfl, records_cons, records_cons, ← single, ← List.filter_append]
      simp [Bucket.records]
    · rw [if_neg later, if_neg same, records_cons, records_cons, List.filter_append, ih,
        List.filter_append]
      by_cases here : t = k
      · -- the bucket in front of the new record is another millisecond's
        have none : (b.records source).filter (·.at_ = k) = [] := by
          rw [List.filter_eq_nil_iff]
          intro r hr
          rw [Bucket.at_of_mem_records hr]
          simpa [← here] using same
        rw [none, List.append_nil, List.append_nil]
      · simp [here]

/-! ## The order of buckets -/

/-- The latest bucket stands first, and no millisecond has two. -/
def Ordered (tl : Timeline) : Prop := tl.Pairwise fun b c ↦ c.at_ < b.at_

theorem ordered_nil : Ordered [] := List.Pairwise.nil

theorem ordered_cons {b : Bucket} {bs : Timeline} :
    Ordered (b :: bs) ↔ (∀ c ∈ bs, c.at_ < b.at_) ∧ Ordered bs := List.pairwise_cons

theorem mem_save {t : Millis} {amount : Decimal} {b : Bucket} (h : b ∈ tl.save t amount) :
    b.at_ = t ∨ ∃ c ∈ tl, c.at_ = b.at_ := by
  induction tl with
  | nil =>
    rw [List.mem_singleton.mp h]
    exact Or.inl rfl
  | cons c cs ih =>
    rw [save] at h
    by_cases later : c.at_ < t
    · rw [if_pos later] at h
      rcases List.mem_cons.mp h with rfl | h
      · exact Or.inl rfl
      · exact Or.inr ⟨b, h, rfl⟩
    by_cases same : c.at_ = t
    · rw [if_neg later, if_pos same] at h
      rcases List.mem_cons.mp h with rfl | h
      · exact Or.inl same
      · exact Or.inr ⟨b, List.mem_cons_of_mem _ h, rfl⟩
    · rw [if_neg later, if_neg same] at h
      rcases List.mem_cons.mp h with rfl | h
      · exact Or.inr ⟨b, List.mem_cons_self, rfl⟩
      · exact (ih h).imp_right fun ⟨d, hd, at_⟩ ↦ ⟨d, List.mem_cons_of_mem _ hd, at_⟩

theorem Ordered.save (ordered : tl.Ordered) (t : Millis) (amount : Decimal) :
    (tl.save t amount).Ordered := by
  induction tl with
  | nil => exact List.pairwise_singleton _ _
  | cons b bs ih =>
    obtain ⟨head, tail⟩ := ordered_cons.mp ordered
    rw [Timeline.save]
    by_cases later : b.at_ < t
    · rw [if_pos later]
      refine ordered_cons.mpr ⟨fun c hc ↦ ?_, ordered⟩
      rcases List.mem_cons.mp hc with rfl | hc
      · exact later
      · exact Int.lt_trans (head c hc) later
    by_cases same : b.at_ = t
    · rw [if_neg later, if_pos same]
      exact ordered_cons.mpr ⟨head, tail⟩
    · rw [if_neg later, if_neg same]
      refine ordered_cons.mpr ⟨fun c hc ↦ ?_, ih tail⟩
      rcases mem_save hc with at_ | ⟨d, hd, at_⟩
      · rw [at_]
        exact Int.lt_iff_le_and_ne.mpr ⟨Int.not_lt.mp later, Ne.symm same⟩
      · rw [← at_]
        exact head d hd

theorem Ordered.pairwise_records (ordered : tl.Ordered) (source : Source) :
    (tl.records source).Pairwise fun r r' ↦ r.at_ ≤ r'.at_ := by
  induction tl with
  | nil => exact List.Pairwise.nil
  | cons b bs ih =>
    obtain ⟨head, tail⟩ := ordered_cons.mp ordered
    rw [records_cons]
    refine List.pairwise_append.mpr ⟨ih tail, ?_, fun r hr r' hr' ↦ ?_⟩
    · refine List.pairwise_of_forall_mem_list fun r hr r' hr' ↦ ?_
      have same : r.at_ = r'.at_ :=
        (Bucket.at_of_mem_records hr).trans (Bucket.at_of_mem_records hr').symm
      exact Int.le_of_eq same
    · obtain ⟨c, hc, at_⟩ := at_of_mem_records hr
      rw [Bucket.at_of_mem_records hr', ← at_]
      exact Int.le_of_lt (head c hc)

end Timeline

/-! ## Counting and adding up -/

theorem Tally.upTo_self (t : Tally) : Tally.upTo t.requests t.amount = t := by
  have := t.requests_lt
  have same : min t.requests (Numeral.limit64 - 1) = t.requests := by omega
  cases t
  simp only [Tally.upTo, Tally.mk.injEq, and_true]
  exact same

/-- Adding up bucket by bucket is adding up amount by amount. -/
theorem foldl_count (bs : List Bucket) (t : Tally) :
    bs.foldl (fun t b ↦ t.count b.amounts) t
      = Tally.upTo (t.requests + (bs.flatMap (·.amounts.toList)).length)
          ((bs.flatMap (·.amounts.toList)).foldl (· + ·) t.amount) := by
  induction bs generalizing t with
  | nil => exact (Tally.upTo_self t).symm
  | cons b bs ih =>
    have sum : b.amounts.toList.foldl (· + ·) t.amount = b.amounts.foldl (· + ·) t.amount :=
      Array.foldl_toList _
    have size : b.amounts.toList.length = b.amounts.size := Array.length_toList
    rw [List.foldl_cons, ih, List.flatMap_cons, List.length_append, List.foldl_append, sum, size]
    simp only [Tally.count, Tally.upTo, Tally.mk.injEq, and_true]
    omega

namespace Ledger

/-- All records of a ledger. -/
def records (l : Ledger) : List Record :=
  (l.get .main).records .main ++ (l.get .fallback).records .fallback

@[simp] theorem records_empty : records empty = [] := rfl

/-- **Recording a payment adds its record**, and nothing else. -/
theorem records_save_perm (l : Ledger) (source : Source) (t : Millis) (amount : Decimal) :
    (l.save source t amount).records.Perm (⟨source, t, amount⟩ :: l.records) := by
  cases source with
  | main => exact (Timeline.records_save_perm .main t amount l.main).append_right _
  | fallback =>
    have side := Timeline.records_save_perm .fallback t amount l.fallback
    exact (side.append_left _).trans List.perm_middle

end Ledger

end PaymentRelay
