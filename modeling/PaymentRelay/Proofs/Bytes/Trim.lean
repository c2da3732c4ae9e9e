import Mathlib.Data.List.DropRight
import PaymentRelay.Bytes.Basic

/-!
# Blanks around octets

Trimming takes away the blanks at both ends and nothing else: octets without a blank are what is
left of a run if and only if the run is these octets with blanks around them.
-/

namespace PaymentRelay.Bytes

open Octet (isBlank)

/-- Octets are given ones with blanks before and after them. -/
def InBlanks (core bs : Bytes) : Prop :=
  ∃ left right, bs = left ++ core ++ right ∧ ∀ b ∈ left ++ right, isBlank b = true

variable {b : UInt8} {bs core : Bytes}

theorem inBlanks_self (bs : Bytes) : InBlanks bs bs :=
  ⟨[], [], by simp⟩

theorem trim_eq (bs : Bytes) : trim bs = (bs.dropWhile isBlank).rdropWhile isBlank := rfl

theorem trim_cons (blank : isBlank b = true) (bs : Bytes) : trim (b :: bs) = trim bs := by
  rw [trim_eq, trim_eq, List.dropWhile_cons_of_pos blank]

theorem trim_concat (blank : isBlank b = true) (bs : Bytes) : trim (bs ++ [b]) = trim bs := by
  rw [trim_eq, trim_eq, List.dropWhile_append]
  split
  · next none_ =>
    rw [List.isEmpty_iff.mp none_, List.dropWhile_cons_of_pos blank]
    rfl
  · rw [List.rdropWhile_concat_pos _ _ _ blank]

theorem trim_of_plain (plain : ∀ b ∈ core, isBlank b = false) : trim core = core := by
  have kept : core.dropWhile isBlank = core := by
    rcases core with _ | ⟨c, cs⟩
    · rfl
    · exact List.dropWhile_cons_of_neg (by simp [plain c List.mem_cons_self])
  rw [trim_eq, kept, List.rdropWhile_eq_self_iff]
  intro some_
  simp [plain _ (List.getLast_mem some_)]

theorem inBlanks_trim (bs : Bytes) : InBlanks (trim bs) bs := by
  refine ⟨bs.takeWhile isBlank, (bs.dropWhile isBlank).rtakeWhile isBlank, ?_, ?_⟩
  · rw [trim_eq, List.append_assoc, List.rdropWhile_append_rtakeWhile,
      List.takeWhile_append_dropWhile]
  · intro b there
    rcases List.mem_append.mp there with there | there
    · exact List.mem_takeWhile_imp there
    · exact List.mem_rtakeWhile_imp there

/-- **Trimming takes away the blanks** at both ends, and nothing else. -/
theorem trim_eq_iff (plain : ∀ b ∈ core, isBlank b = false) :
    trim bs = core ↔ InBlanks core bs := by
  constructor
  · rintro rfl
    exact inBlanks_trim bs
  · rintro ⟨left, right, rfl, blank⟩
    induction left with
    | nil =>
      induction right using List.reverseRecOn with
      | nil => simpa using trim_of_plain plain
      | append_singleton right b ih =>
        rw [← List.append_assoc, trim_concat (blank b (by simp))]
        exact ih fun c there ↦ blank c (List.mem_append_left [b] there)
    | cons b left ih =>
      rw [List.cons_append, List.cons_append, trim_cons (blank b List.mem_cons_self)]
      exact ih fun c there ↦ blank c (List.mem_cons_of_mem b there)

end PaymentRelay.Bytes
