import Mathlib.Data.List.Infix
import PaymentRelay.Bytes.Reads

/-!
# Searching a stream that has not arrived as a whole

A needle that is found in what has arrived is found in the same place in the whole stream, and a
needle that lies within what has arrived is found there. So it makes no difference how much more has
arrived than what ends with the needle.
-/

namespace PaymentRelay

namespace Bytes

variable {needle : Bytes} {i j : Nat}

theorem le_of_findFrom {bs : Bytes} (h : findFrom needle i bs = some j) : i ≤ j := by
  induction bs generalizing i with
  | nil => cases h
  | cons b bs ih =>
    unfold findFrom at h
    split at h
    · cases h
      exact Nat.le_refl _
    · exact Nat.le_of_succ_le (ih h)

theorem findFrom_append {bs : Bytes} (more : Bytes) (h : findFrom needle i bs = some j) :
    findFrom needle i (bs ++ more) = some j := by
  induction bs generalizing i with
  | nil => cases h
  | cons b bs ih =>
    rw [List.cons_append]
    unfold findFrom at h ⊢
    split at h
    · next found =>
      have longer : needle <+: b :: (bs ++ more) :=
        (List.isPrefixOf_iff_prefix.mp found).trans (List.prefix_append (b :: bs) more)
      rw [if_pos (List.isPrefixOf_iff_prefix.mpr longer)]
      exact h
    · next missed =>
      -- the needle ends within `bs`, so what comes after cannot make it stand here
      have within : j + needle.length ≤ (i + 1) + bs.length := findFrom_add_le h
      have after : i + 1 ≤ j := le_of_findFrom h
      have still : ¬ needle.isPrefixOf (b :: (bs ++ more)) = true := by
        intro found
        refine missed (List.isPrefixOf_iff_prefix.mpr ?_)
        refine List.prefix_of_prefix_length_le (List.isPrefixOf_iff_prefix.mp found)
          (List.prefix_append (b :: bs) more) ?_
        rw [List.length_cons]
        omega
      rw [if_neg still]
      exact ih h

theorem findFrom_of_append {bs more : Bytes} (some_ : needle ≠ [])
    (h : findFrom needle i (bs ++ more) = some j) (within : j + needle.length ≤ i + bs.length) :
    findFrom needle i bs = some j := by
  induction bs generalizing i with
  | nil =>
    have pos : 0 < needle.length := List.length_pos_iff.mpr some_
    have after : i ≤ j := le_of_findFrom h
    rw [List.length_nil] at within
    omega
  | cons b bs ih =>
    rw [List.cons_append] at h
    rw [List.length_cons] at within
    unfold findFrom at h ⊢
    split at h
    · next found =>
      cases h
      have shorter : needle <+: b :: bs := by
        refine List.prefix_of_prefix_length_le (List.isPrefixOf_iff_prefix.mp found)
          (List.prefix_append (b :: bs) more) ?_
        rw [List.length_cons]
        omega
      rw [if_pos (List.isPrefixOf_iff_prefix.mpr shorter)]
    · next missed =>
      have still : ¬ needle.isPrefixOf (b :: bs) = true := fun found ↦
        missed (List.isPrefixOf_iff_prefix.mpr
          ((List.isPrefixOf_iff_prefix.mp found).trans (List.prefix_append (b :: bs) more)))
      rw [if_neg still]
      exact ih h (by omega)

/-- What is found stays where it is when more arrives. -/
theorem find?_append {bs : Bytes} (more : Bytes) (h : find? bs needle = some i) :
    find? (bs ++ more) needle = some i := by
  unfold find? at h ⊢
  split at h
  · cases h
  · next some_ =>
    rw [if_neg some_]
    exact findFrom_append more h

/-- What lies within what has arrived is found there. -/
theorem find?_of_append {bs more : Bytes} (h : find? (bs ++ more) needle = some i)
    (within : i + needle.length ≤ bs.length) : find? bs needle = some i := by
  unfold find? at h ⊢
  split at h
  · cases h
  · next some_ =>
    rw [if_neg some_]
    exact findFrom_of_append (fun empty ↦ some_ (List.isEmpty_iff.mpr empty)) h (by omega)

theorem findFrom_prefix {bs : Bytes} (h : findFrom needle i bs = some j) :
    needle <+: bs.drop (j - i) := by
  induction bs generalizing i with
  | nil => cases h
  | cons b bs ih =>
    unfold findFrom at h
    split at h
    · next found =>
      cases h
      rw [Nat.sub_self, List.drop_zero]
      exact List.isPrefixOf_iff_prefix.mp found
    · have after : i + 1 ≤ j := le_of_findFrom h
      have one : j - i = (j - (i + 1)) + 1 := by omega
      rw [one, List.drop_succ_cons]
      exact ih h

theorem find?_prefix {bs : Bytes} (h : find? bs needle = some i) : needle <+: bs.drop i := by
  unfold find? at h
  split at h
  · cases h
  · exact findFrom_prefix h

theorem findFrom_isSome_iff {bs : Bytes} (some_ : needle ≠ []) :
    (findFrom needle i bs).isSome = true ↔ needle <:+: bs := by
  induction bs generalizing i with
  | nil => simpa [findFrom] using some_
  | cons b bs ih =>
    rw [findFrom, List.infix_cons_iff, ← List.isPrefixOf_iff_prefix]
    split
    · next here => simp [here]
    · next missed => simp [missed, ih]

/-- **A needle is found** if it stands anywhere. -/
theorem find?_isSome_iff {bs : Bytes} (some_ : needle ≠ []) :
    (find? bs needle).isSome = true ↔ needle <:+: bs := by
  rw [find?, if_neg (mt List.isEmpty_iff.mp some_)]
  exact findFrom_isSome_iff some_

end Bytes

namespace Reads

variable {room : Nat} {stream rest : Reads} {octets : Bytes}

theorem length_read_le (room : Nat) (stream : Reads) : (stream.read room).1.length ≤ room := by
  induction stream with
  | nil => exact Nat.zero_le room
  | cons piece rest ih =>
    unfold read
    split
    · exact Nat.zero_le room
    split
    · exact ih
    · exact List.length_take_le room piece

theorem flat_eq_nil_of_read (pos : 0 < room) (h : (stream.read room).1 = []) :
    stream.flat = [] := by
  induction stream with
  | nil => rfl
  | cons piece rest ih =>
    unfold read at h
    rw [if_neg (Nat.ne_of_gt pos)] at h
    split at h
    · next empty =>
      rw [flat, List.flatten_cons, List.isEmpty_iff.mp empty, List.nil_append]
      exact ih h
    · next some_ =>
      rcases List.take_eq_nil_iff.mp h with none | none
      · exact absurd none (Nat.ne_of_gt pos)
      · exact absurd (List.isEmpty_iff.mpr none) some_

theorem eq_nil_of_solid {left : Reads} (solid : [] ∉ left) (none_ : left.flat = []) :
    left = [] := by
  refine List.eq_nil_iff_forall_not_mem.mpr fun piece mem ↦ ?_
  have empty : piece = [] := List.flatten_eq_nil_iff.mp none_ piece mem
  exact solid (empty ▸ mem)

/-- A read takes octets of what comes first, where no piece of that is empty, and leaves what comes
after it alone. -/
theorem read_of_solid {left : Reads} (solid : [] ∉ left) (some_ : left ≠ [])
    (pos : 0 < room) (more : Reads) :
    ∃ octets rest, (left ++ more).read room = (octets, rest ++ more) ∧ octets ≠ [] ∧
      octets.length ≤ room ∧ [] ∉ rest ∧ octets ++ rest.flat = left.flat := by
  obtain ⟨piece, pieces, rfl⟩ := List.exists_cons_of_ne_nil some_
  rw [List.mem_cons, not_or] at solid
  obtain ⟨piece_ne, solid⟩ := solid
  have piece_ne : piece ≠ [] := Ne.symm piece_ne
  have took : piece.take room ≠ [] := by
    rw [Ne, List.take_eq_nil_iff, not_or]
    exact ⟨Nat.ne_of_gt pos, piece_ne⟩
  rw [List.cons_append, read, if_neg (Nat.ne_of_gt pos),
    if_neg (mt List.isEmpty_iff.mp piece_ne)]
  by_cases whole : piece.drop room = []
  · refine ⟨piece.take room, pieces, ?_, took, List.length_take_le _ _, solid, ?_⟩
    · simp [whole]
    · have all : piece.take room = piece := by
        simpa [whole] using List.take_append_drop room piece
      rw [all, flat, flat, List.flatten_cons]
  · refine ⟨piece.take room, piece.drop room :: pieces, ?_, took, List.length_take_le _ _, ?_, ?_⟩
    · simp [whole]
    · rw [List.mem_cons, not_or]
      exact ⟨Ne.symm whole, solid⟩
    · rw [flat, List.flatten_cons, ← List.append_assoc, List.take_append_drop, flat,
        List.flatten_cons]

end Reads

end PaymentRelay
