import Mathlib.Data.List.Nodup
import Mathlib.Data.List.Perm.Subperm
import PaymentRelay.Ledger.Scan
import PaymentRelay.Proofs.Ledger.Records

/-!
# A tally that races with saves

While a scan goes from bucket to bucket, others make buckets ahead of it and behind it, and put
payments into buckets that it has visited, into the one that it comes to next, and into new ones. So
its tally need not be that of any instant. But it lies between two: it has every payment of the
period that was there when the scan began, each once, and none that is not there when it is over.

A payment keeps its place, which is its bucket and its number there: buckets only grow, and at the
end. `Grown` says so of two states of the payments. A scan that only goes forward visits no bucket
twice, and so it counts no place twice; that it finds the buckets which were there when it began is
assumed of it, and that it finds any other is not.
-/

namespace PaymentRelay

/-! ## Places -/

/-- Where a payment is: its millisecond, and how many were put into the bucket before it. -/
abbrev Place := Millis × Nat

/-- The places of a bucket. -/
def Bucket.places (b : Bucket) : List Place := (List.range b.amounts.size).map (b.at_, ·)

theorem Bucket.mem_places {b : Bucket} {p : Place} :
    p ∈ b.places ↔ p.1 = b.at_ ∧ p.2 < b.amounts.size := by
  simp only [Bucket.places, List.mem_map, List.mem_range]
  constructor
  · rintro ⟨k, hk, rfl⟩
    exact ⟨rfl, hk⟩
  · rintro ⟨at_, hk⟩
    exact ⟨p.2, hk, Prod.ext at_.symm rfl⟩

theorem Bucket.nodup_places (b : Bucket) : b.places.Nodup :=
  List.nodup_range.map fun _ _ same ↦ (Prod.ext_iff.mp same).2

theorem nodup_flatMap_places {bs : List Bucket} (h : bs.Pairwise fun b c ↦ b.at_ ≠ c.at_) :
    (bs.flatMap Bucket.places).Nodup := by
  refine List.nodup_flatMap.mpr ⟨fun b _ ↦ b.nodup_places, h.imp fun {b c} apart p hb hc ↦ ?_⟩
  exact apart ((Bucket.mem_places.mp hb).1.symm.trans (Bucket.mem_places.mp hc).1)

/-- A bucket has all that another has, in the same places. -/
def Bucket.Extends (c b : Bucket) : Prop := b.amounts.toList <+: c.amounts.toList

theorem Bucket.Extends.mem_places {b c : Bucket} (h : c.Extends b) (at_ : c.at_ = b.at_) {p : Place}
    (hp : p ∈ b.places) : p ∈ c.places := by
  obtain ⟨here, less⟩ := Bucket.mem_places.mp hp
  have longer : b.amounts.size ≤ c.amounts.size := List.IsPrefix.length_le h
  exact Bucket.mem_places.mpr ⟨here.trans at_.symm, Nat.lt_of_lt_of_le less longer⟩

namespace Timeline

variable {tl tl' tl'' : Timeline} {t : Millis} {b c : Bucket}

/-- The places of a period. -/
def places (first last : Millis) (tl : Timeline) : List Place :=
  (tl.within first last).flatMap Bucket.places

def amountAt (tl : Timeline) (p : Place) : Decimal :=
  ((tl.bucket? p.1).bind (·.amounts[p.2]?)).getD .zero

theorem mem_of_bucket? (h : tl.bucket? t = some b) : b ∈ tl ∧ b.at_ = t :=
  ⟨List.mem_of_find?_eq_some h, by simpa using List.find?_some h⟩

theorem Ordered.bucket?_eq (ordered : tl.Ordered) (h : b ∈ tl) : tl.bucket? b.at_ = some b := by
  induction tl with
  | nil => cases h
  | cons c cs ih =>
    obtain ⟨head, tail⟩ := ordered_cons.mp ordered
    rcases List.mem_cons.mp h with rfl | h
    · exact List.find?_cons_of_pos (by simp)
    · have apart : c.at_ ≠ b.at_ := Int.ne_of_gt (head b h)
      exact (List.find?_cons_of_neg (by simpa using apart)).trans (ih tail h)

theorem mem_within {first last : Millis} :
    b ∈ tl.within first last ↔ b ∈ tl ∧ first ≤ b.at_ ∧ b.at_ ≤ last := by
  simp [within]

theorem Ordered.pairwise_within (ordered : tl.Ordered) (first last : Millis) :
    (tl.within first last).Pairwise fun b c ↦ b.at_ < c.at_ := by
  rw [within, List.pairwise_reverse]
  exact List.Pairwise.filter _ ordered

theorem Ordered.nodup_places (ordered : tl.Ordered) (first last : Millis) :
    (tl.places first last).Nodup :=
  nodup_flatMap_places ((ordered.pairwise_within first last).imp Int.ne_of_lt)

/-! ## Buckets only grow -/

/-- Of two states of the payments, the second has all that the first has, in the same places. -/
def Grown (tl tl' : Timeline) : Prop :=
  ∀ b ∈ tl, ∃ c ∈ tl', c.at_ = b.at_ ∧ c.Extends b

theorem Grown.refl (tl : Timeline) : tl.Grown tl :=
  fun b hb ↦ ⟨b, hb, rfl, List.prefix_refl _⟩

theorem Grown.trans (h : tl.Grown tl') (h' : tl'.Grown tl'') : tl.Grown tl'' := by
  intro b hb
  obtain ⟨c, hc, at_, more⟩ := h b hb
  obtain ⟨d, hd, at_', more'⟩ := h' c hc
  exact ⟨d, hd, at_'.trans at_, List.IsPrefix.trans more more'⟩

theorem mem_insertBucket (h : b ∈ tl.insertBucket t) : b.at_ = t ∨ b ∈ tl := by
  induction tl with
  | nil =>
    rw [List.mem_singleton.mp h]
    exact Or.inl rfl
  | cons c cs ih =>
    rw [insertBucket] at h
    by_cases later : c.at_ < t
    · rw [if_pos later] at h
      rcases List.mem_cons.mp h with rfl | h
      · exact Or.inl rfl
      · exact Or.inr h
    by_cases same : c.at_ = t
    · rw [if_neg later, if_pos same] at h
      exact Or.inr h
    · rw [if_neg later, if_neg same] at h
      rcases List.mem_cons.mp h with rfl | h
      · exact Or.inr List.mem_cons_self
      · exact (ih h).imp_right (List.mem_cons_of_mem _)

theorem mem_insertBucket_of_mem (h : b ∈ tl) (t : Millis) : b ∈ tl.insertBucket t := by
  induction tl with
  | nil => cases h
  | cons c cs ih =>
    rw [insertBucket]
    by_cases later : c.at_ < t
    · rw [if_pos later]
      exact List.mem_cons_of_mem _ h
    by_cases same : c.at_ = t
    · rw [if_neg later, if_pos same]
      exact h
    · rw [if_neg later, if_neg same]
      rcases List.mem_cons.mp h with rfl | h
      · exact List.mem_cons_self
      · exact List.mem_cons_of_mem _ (ih h)

theorem Ordered.insertBucket (ordered : tl.Ordered) (t : Millis) : (tl.insertBucket t).Ordered := by
  induction tl with
  | nil => exact List.pairwise_singleton _ _
  | cons b bs ih =>
    obtain ⟨head, tail⟩ := ordered_cons.mp ordered
    rw [Timeline.insertBucket]
    by_cases later : b.at_ < t
    · rw [if_pos later]
      refine ordered_cons.mpr ⟨fun c hc ↦ ?_, ordered⟩
      rcases List.mem_cons.mp hc with rfl | hc
      · exact later
      · exact Int.lt_trans (head c hc) later
    by_cases same : b.at_ = t
    · rw [if_neg later, if_pos same]
      exact ordered
    · rw [if_neg later, if_neg same]
      refine ordered_cons.mpr ⟨fun c hc ↦ ?_, ih tail⟩
      rcases mem_insertBucket hc with rfl | hc
      · exact Int.lt_iff_le_and_ne.mpr ⟨Int.not_lt.mp later, Ne.symm same⟩
      · exact head c hc

theorem mem_pushInto {amount : Decimal} (h : c ∈ tl.pushInto t amount) :
    ∃ b ∈ tl, b.at_ = c.at_ := by
  induction tl with
  | nil => cases h
  | cons b bs ih =>
    rw [pushInto] at h
    split at h
    · rcases List.mem_cons.mp h with rfl | h
      · exact ⟨b, List.mem_cons_self, rfl⟩
      · exact ⟨c, List.mem_cons_of_mem _ h, rfl⟩
    · rcases List.mem_cons.mp h with rfl | h
      · exact ⟨c, List.mem_cons_self, rfl⟩
      · obtain ⟨d, hd, at_⟩ := ih h
        exact ⟨d, List.mem_cons_of_mem _ hd, at_⟩

theorem Ordered.pushInto (ordered : tl.Ordered) (t : Millis) (amount : Decimal) :
    (tl.pushInto t amount).Ordered := by
  induction tl with
  | nil => exact ordered_nil
  | cons b bs ih =>
    obtain ⟨head, tail⟩ := ordered_cons.mp ordered
    rw [Timeline.pushInto]
    split
    · exact ordered_cons.mpr ⟨head, tail⟩
    · refine ordered_cons.mpr ⟨fun c hc ↦ ?_, ih tail⟩
      obtain ⟨d, hd, at_⟩ := mem_pushInto hc
      rw [← at_]
      exact head d hd

theorem grown_pushInto (tl : Timeline) (t : Millis) (amount : Decimal) :
    tl.Grown (tl.pushInto t amount) := by
  intro b hb
  induction tl with
  | nil => cases hb
  | cons c cs ih =>
    rw [pushInto]
    split
    · rcases List.mem_cons.mp hb with rfl | hb
      · refine ⟨_, List.mem_cons_self, rfl, ?_⟩
        rw [Bucket.Extends, Array.toList_push]
        exact List.prefix_append _ _
      · exact ⟨b, List.mem_cons_of_mem _ hb, rfl, List.prefix_refl _⟩
    · rcases List.mem_cons.mp hb with rfl | hb
      · exact ⟨b, List.mem_cons_self, rfl, List.prefix_refl _⟩
      · obtain ⟨d, hd, more⟩ := ih hb
        exact ⟨d, List.mem_cons_of_mem _ hd, more⟩

/-- The payments after several steps. -/
def changed (tl : Timeline) (events : List Scan.Event) : Timeline :=
  events.foldl Scan.Event.change tl

theorem Ordered.change (ordered : tl.Ordered) (event : Scan.Event) : (event.change tl).Ordered := by
  cases event with
  | insert t => exact ordered.insertBucket t
  | push t amount => exact ordered.pushInto t amount
  | visit t => exact ordered

theorem grown_change (tl : Timeline) (event : Scan.Event) : tl.Grown (event.change tl) := by
  cases event with
  | insert t => exact fun b hb ↦ ⟨b, mem_insertBucket_of_mem hb t, rfl, List.prefix_refl _⟩
  | push t amount => exact grown_pushInto tl t amount
  | visit t => exact Grown.refl tl

theorem Ordered.changed (ordered : tl.Ordered) (events : List Scan.Event) :
    (tl.changed events).Ordered := by
  induction events generalizing tl with
  | nil => exact ordered
  | cons event events ih => exact ih (ordered.change event)

theorem grown_changed (tl : Timeline) (events : List Scan.Event) :
    tl.Grown (tl.changed events) := by
  induction events generalizing tl with
  | nil => exact Grown.refl tl
  | cons event events ih => exact (grown_change tl event).trans (ih (event.change tl))

theorem Grown.amountAt (grown : tl.Grown tl') (ordered : tl'.Ordered) (hb : b ∈ tl) :
    b.places.map tl'.amountAt = b.amounts.toList := by
  obtain ⟨c, hc, at_, more⟩ := grown b hb
  have found : tl'.bucket? b.at_ = some c := at_ ▸ ordered.bucket?_eq hc
  refine List.ext_getElem (by simp [Bucket.places]) fun k _ less ↦ ?_
  have less' : k < c.amounts.toList.length := Nat.lt_of_lt_of_le less more.length_le
  simp only [Bucket.places, List.map_map, List.getElem_map, List.getElem_range, Function.comp,
    Timeline.amountAt, found, Option.bind_some]
  have same : c.amounts.toList[k] = b.amounts.toList[k] := (more.getElem less).symm
  rw [← same]
  simp [Array.getElem?_eq_getElem (by simpa using less')]

theorem Grown.places_subset (grown : tl.Grown tl') (first last : Millis) :
    tl.places first last ⊆ tl'.places first last := by
  intro p hp
  obtain ⟨b, hb, hp⟩ := List.mem_flatMap.mp hp
  obtain ⟨hb, within⟩ := mem_within.mp hb
  obtain ⟨c, hc, at_, more⟩ := grown b hb
  exact List.mem_flatMap.mpr
    ⟨c, mem_within.mpr ⟨hc, at_ ▸ within⟩, more.mem_places at_ hp⟩

end Timeline

/-! ## What a scan visits -/

namespace Scan

variable {tl : Timeline} {s : Scan} {b : Bucket}

/-- The bucket that a step visits, as it stands. -/
def found? (state : Timeline × Scan) : Event → Option Bucket
  | .visit t => state.2.reach? state.1 t
  | _ => none

/-- The buckets that are visited in several steps, as they stood when they were visited. -/
def visited (state : Timeline × Scan) : List Event → List Bucket
  | [] => []
  | event :: events => (found? state event).toList ++ visited (step state event) events

/-- The places that are counted in several steps, in the order in which they are. -/
def counted (state : Timeline × Scan) (events : List Event) : List Place :=
  (visited state events).flatMap Bucket.places

/-- Every bucket of the period that is there when a scan begins is visited. That a bucket is visited
once at most, and none after a later one, is so by itself. -/
def Complete (tl : Timeline) (first last : Millis) (events : List Event) : Prop :=
  ∀ b ∈ tl, first ≤ b.at_ → b.at_ ≤ last →
    ∃ c ∈ visited (tl, start first last) events, c.at_ = b.at_

instance decidableComplete (tl : Timeline) (first last : Millis) (events : List Event) :
    Decidable (Complete tl first last events) :=
  inferInstanceAs (Decidable (∀ b ∈ tl, first ≤ b.at_ → b.at_ ≤ last →
    ∃ c ∈ visited (tl, start first last) events, c.at_ = b.at_))

theorem reach?_eq_some {t : Millis} (h : s.reach? tl t = some b) :
    b ∈ tl ∧ b.at_ = t ∧ s.first ≤ t ∧ t ≤ s.last := by
  rw [reach?] at h
  split at h
  · next within =>
    obtain ⟨hb, at_⟩ := Timeline.mem_of_bucket? h
    exact ⟨hb, at_, within⟩
  · cases h

theorem step_snd (state : Timeline × Scan) (event : Event) :
    (step state event).2 = match found? state event with
      | some b => { state.2 with first := b.at_ + 1, tally := state.2.tally.count b.amounts }
      | none => state.2 := by
  cases event with
  | insert t => rfl
  | push t amount => rfl
  | visit t =>
    rw [step, found?]
    dsimp only
    rw [visit]
    cases found : state.2.reach? state.1 t with
    | none => rfl
    | some b =>
      obtain ⟨-, rfl, -⟩ := reach?_eq_some found
      rfl

/-- What a scan comes to is what it has visited. -/
theorem run_tally (state : Timeline × Scan) (events : List Event) :
    (run state events).2.tally
      = (visited state events).foldl (fun t b ↦ t.count b.amounts) state.2.tally := by
  induction events generalizing state with
  | nil => rfl
  | cons event events ih =>
    refine (ih (step state event)).trans ?_
    rw [visited, step_snd]
    cases found? state event with
    | none => rfl
    | some b => rfl

theorem mem_of_found? {state : Timeline × Scan} {event : Event} (h : found? state event = some b) :
    b ∈ state.1 ∧ state.2.first ≤ b.at_ ∧ b.at_ ≤ state.2.last := by
  cases event with
  | visit t =>
    obtain ⟨hb, rfl, within⟩ := reach?_eq_some h
    exact ⟨hb, within⟩
  | _ => cases h

theorem visited_bounds {state : Timeline × Scan} {events : List Event}
    (h : b ∈ visited state events) : state.2.first ≤ b.at_ ∧ b.at_ ≤ state.2.last := by
  induction events generalizing state with
  | nil => cases h
  | cons event events ih =>
    rw [visited, List.mem_append, Option.mem_toList] at h
    rcases h with now | later
    · exact (mem_of_found? now).2
    · have := ih later
      rw [step_snd] at this
      cases found : found? state event with
      | none =>
        rw [found] at this
        exact this
      | some c =>
        rw [found] at this
        obtain ⟨-, from_, -⟩ := mem_of_found? found
        exact ⟨Int.le_trans from_ (Int.le_of_lt (Int.lt_of_add_one_le this.1)), this.2⟩

/-- **A scan only goes forward.** -/
theorem pairwise_visited (state : Timeline × Scan) (events : List Event) :
    (visited state events).Pairwise fun b c ↦ b.at_ < c.at_ := by
  induction events generalizing state with
  | nil => exact List.Pairwise.nil
  | cons event events ih =>
    rw [visited]
    cases found : found? state event with
    | none => exact ih (step state event)
    | some b =>
      refine List.pairwise_cons.mpr ⟨fun c hc ↦ ?_, ih (step state event)⟩
      have := (visited_bounds hc).1
      rw [step_snd, found] at this
      exact Int.lt_of_add_one_le this

theorem visited_grown {s : Timeline × Scan} (ordered : s.1.Ordered)
    (events : List Event) : Timeline.Grown (visited s events) (s.1.changed events) := by
  induction events generalizing s with
  | nil =>
    intro b hb
    cases hb
  | cons event events ih =>
    intro b hb
    rw [visited, List.mem_append, Option.mem_toList] at hb
    rcases hb with now | later
    · exact s.1.grown_changed (event :: events) b (mem_of_found? now).1
    · exact ih (ordered.change event) b later

/-- A bucket that was there when the scan began has all its payments when it is visited. -/
theorem visited_extends {s : Timeline × Scan} (ordered : s.1.Ordered) {events : List Event}
    {c : Bucket} (hb : b ∈ s.1) (hc : c ∈ visited s events) (at_ : c.at_ = b.at_) :
    c.Extends b := by
  induction events generalizing s b with
  | nil => cases hc
  | cons event events ih =>
    rw [visited, List.mem_append, Option.mem_toList] at hc
    rcases hc with now | later
    · -- there is only one bucket of that millisecond
      have one := ordered.bucket?_eq hb
      rw [← at_, ordered.bucket?_eq (mem_of_found? now).1] at one
      cases one
      exact List.prefix_refl _
    · obtain ⟨d, hd, at_', more⟩ := s.1.grown_change event b hb
      have rest := ih (ordered.change event) hd later (at_.trans at_'.symm)
      exact List.IsPrefix.trans more rest

/-! ## What a scan counts -/

section Counted

variable {events : List Event} {first last : Millis}

theorem nodup_counted (state : Timeline × Scan) (events : List Event) :
    (counted state events).Nodup :=
  nodup_flatMap_places ((pairwise_visited state events).imp Int.ne_of_lt)

/-- Whatever was there when a scan began is counted. -/
theorem places_subset_counted (ordered : tl.Ordered) (complete : Complete tl first last events) :
    tl.places first last ⊆ counted (tl, start first last) events := by
  intro p hp
  obtain ⟨b, hb, hp⟩ := List.mem_flatMap.mp hp
  obtain ⟨hb, after, before⟩ := Timeline.mem_within.mp hb
  obtain ⟨c, hc, at_⟩ := complete b hb after before
  have more := visited_extends (s := (tl, start first last)) ordered hb hc at_
  exact List.mem_flatMap.mpr ⟨c, hc, more.mem_places at_ hp⟩

/-- Whatever is counted is there when the scan is over, and lies in the period. -/
theorem counted_subset_places (ordered : tl.Ordered) :
    counted (tl, start first last) events ⊆ (tl.changed events).places first last := by
  intro p hp
  obtain ⟨b, hb, hp⟩ := List.mem_flatMap.mp hp
  have within := visited_bounds hb
  obtain ⟨c, hc, at_, more⟩ := visited_grown (s := (tl, start first last)) ordered events b hb
  exact List.mem_flatMap.mpr
    ⟨c, Timeline.mem_within.mpr ⟨hc, at_ ▸ within⟩, more.mem_places at_ hp⟩

/-- A scan comes to the payments that it has counted, added up in that order. -/
theorem tally_counted (ordered : tl.Ordered) (first last : Millis) (events : List Event) :
    (run (tl, start first last) events).2.tally
      = Tally.upTo (counted (tl, start first last) events).length
          (((counted (tl, start first last) events).map (tl.changed events).amountAt).foldl (· + ·)
            .zero) := by
  have grown := visited_grown (s := (tl, start first last)) ordered events
  have amounts : (visited (tl, start first last) events).flatMap (·.amounts.toList)
      = (counted (tl, start first last) events).map (tl.changed events).amountAt := by
    rw [counted, List.map_flatMap]
    refine List.flatMap_congr fun b hb ↦ ?_
    exact (grown.amountAt (ordered.changed events) hb).symm
  have zero : (start first last).tally.requests = 0 := rfl
  rw [run_tally, foldl_count, amounts, List.length_map, zero, Nat.zero_add]
  rfl

theorem requests_le (ordered : tl.Ordered) (first last : Millis) (events : List Event) :
    (run (tl, start first last) events).2.tally.requests
      ≤ ((tl.changed events).places first last).length := by
  rw [tally_counted ordered]
  refine Nat.le_trans (Nat.min_le_left _ _) ?_
  exact (List.subperm_of_subset (nodup_counted _ _) (counted_subset_places ordered)).length_le

theorem le_requests (ordered : tl.Ordered) (complete : Complete tl first last events) :
    min (tl.places first last).length (Numeral.limit64 - 1)
      ≤ (run (tl, start first last) events).2.tally.requests := by
  have more := (List.subperm_of_subset (ordered.nodup_places first last)
    (places_subset_counted ordered complete)).length_le
  rw [tally_counted ordered]
  refine Nat.le_min.mpr ⟨?_, Nat.min_le_right _ _⟩
  exact Nat.le_trans (Nat.min_le_left _ _) more

end Counted

/-! ## A scan that nobody disturbs -/

/-- Visits to buckets that are there and lie ahead, each behind the one before it, all succeed. -/
theorem visited_map_visit (ordered : tl.Ordered) {bs : List Bucket}
    (sorted : bs.Pairwise fun b c ↦ b.at_ < c.at_)
    (ahead : ∀ b ∈ bs, b ∈ tl ∧ s.first ≤ b.at_ ∧ b.at_ ≤ s.last) :
    visited (tl, s) (bs.map fun b ↦ .visit b.at_) = bs := by
  induction bs generalizing s with
  | nil => rfl
  | cons b bs ih =>
    obtain ⟨head, tail⟩ := List.pairwise_cons.mp sorted
    obtain ⟨hb, within⟩ := ahead b List.mem_cons_self
    have found : found? (tl, s) (.visit b.at_) = some b := by
      rw [found?, reach?, if_pos within, ordered.bucket?_eq hb]
    rw [List.map_cons, visited, found]
    refine congrArg (List.cons b) ?_
    have next : step (tl, s) (.visit b.at_) = (tl, (step (tl, s) (.visit b.at_)).2) := rfl
    rw [next, step_snd, found]
    refine ih tail fun c hc ↦ ?_
    obtain ⟨hc', -, before⟩ := ahead c (List.mem_cons_of_mem _ hc)
    exact ⟨hc', Int.add_one_le_of_lt (head c hc), before⟩

/-- **A scan that nobody disturbs** comes to the tally of the period. -/
theorem undisturbed_tally (ordered : tl.Ordered) (first last : Millis) :
    (run (tl, start first last) ((tl.within first last).map fun b ↦ .visit b.at_)).2.tally
      = tl.tally first last := by
  rw [run_tally, visited_map_visit ordered (ordered.pairwise_within first last)
    fun b hb ↦ Timeline.mem_within.mp hb]
  rfl

/-! ## A scan among saves -/

/-- **A scan that races with saves loses nothing and invents nothing.** Let a scan begin after
anything was recorded, and let it visit every bucket of its period that is there then. Whatever else
is recorded between two visits, it counts no payment twice; every payment of the period that was
there when it began is counted, and every payment that is counted lies in the period and is there
when it is over; and it comes to the amounts of those that it has counted. So its count lies between
the number of payments at its beginning and at its end, and a later scan of the same period does not
count fewer. -/
theorem racing_scan_counts_once (history events : List Event) (first last : Millis)
    (complete : Complete (Timeline.changed [] history) first last events) :
    let before := Timeline.changed [] history
    let after := before.changed events
    let counted := counted (before, start first last) events
    let tally := (run (before, start first last) events).2.tally
    counted.Nodup ∧ before.places first last ⊆ counted ∧ counted ⊆ after.places first last ∧
      tally = Tally.upTo counted.length ((counted.map after.amountAt).foldl (· + ·) .zero) ∧
      min (before.places first last).length (Numeral.limit64 - 1) ≤ tally.requests ∧
      tally.requests ≤ (after.places first last).length ∧
      ∀ between events', Complete (after.changed between) first last events' →
        tally.requests
          ≤ (run (after.changed between, start first last) events').2.tally.requests := by
  intro before after counted tally
  have ordered : before.Ordered := Timeline.ordered_nil.changed history
  have end_ : tally.requests ≤ (after.places first last).length :=
    requests_le ordered first last events
  refine ⟨nodup_counted _ _, places_subset_counted ordered complete, counted_subset_places ordered,
    tally_counted ordered first last events, le_requests ordered complete, end_,
    fun between events' complete' ↦ ?_⟩
  -- what is there at the end of the first scan is there at the beginning of the second
  have ordered' : after.Ordered := ordered.changed events
  have kept := ((after.grown_changed between).places_subset first last)
  have more := (List.subperm_of_subset (ordered'.nodup_places first last) kept).length_le
  have below := tally.requests_lt
  refine Nat.le_trans (Nat.le_min.mpr ⟨Nat.le_trans end_ more, ?_⟩)
    (le_requests (ordered'.changed between) complete')
  omega

/-! ## One scan -/

/-- Two payments are recorded. -/
def twoSaves : List Event :=
  let amount : Decimal := ⟨false, 105, 1, by decide, by decide⟩
  [.insert 10, .push 10 amount, .insert 50, .push 50 amount]

/-- More payments are recorded around and between the visits of a scan; a bucket made ahead of it is
passed over, and another is visited while it is empty. -/
def amidSaves : List Event :=
  let amount : Decimal := ⟨false, 105, 1, by decide, by decide⟩
  [.visit 10, .insert 30, .push 10 amount, .visit 30, .push 30 amount, .insert 40, .push 40 amount,
    .visit 50, .push 50 amount]

/-- A scan of the same period, after all that. -/
def afterSaves : List Event := [.visit 10, .visit 30, .visit 40, .visit 50]

/-- The scan counts what was there when it began, and none of what was put behind it or into buckets
that it passed over. A later scan counts no fewer payments. -/
theorem scan_amid_saves :
    let before := Timeline.changed [] twoSaves
    let after := before.changed amidSaves
    Complete before 10 50 amidSaves ∧ counted (before, start 10 50) amidSaves = [(10, 0), (50, 0)] ∧
      (run (before, start 10 50) amidSaves).2.tally.requests
        ≤ (run (after.changed [], start 10 50) afterSaves).2.tally.requests := by
  have complete : Complete (Timeline.changed [] twoSaves) 10 50 amidSaves := by decide +kernel
  obtain ⟨-, -, -, -, -, -, later⟩ := racing_scan_counts_once twoSaves amidSaves 10 50 complete
  refine ⟨complete, by decide +kernel, later [] afterSaves ?_⟩
  decide +kernel

end Scan

end PaymentRelay
