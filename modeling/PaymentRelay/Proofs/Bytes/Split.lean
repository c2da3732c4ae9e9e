import PaymentRelay.Proofs.Bytes.Find

/-!
# Pieces between separators

Octets that hold no separator are one piece, and a separator ends a piece. So a message that was put
together from pieces without separators falls into just those pieces again, and every message is put
together from the pieces that it falls into. In the same way a search passes over octets among which
the needle cannot begin.
-/

namespace PaymentRelay.Bytes

variable {separator : UInt8} {piece : Bytes}

theorem splitFrom_append (word rest : Bytes) (none_ : separator ∉ piece) :
    splitFrom separator word (piece ++ rest) =
      splitFrom separator (piece.reverse ++ word) rest := by
  induction piece generalizing word with
  | nil => rfl
  | cons b bs ih =>
    have other : b ≠ separator := fun same ↦ none_ (same ▸ List.mem_cons_self)
    rw [List.cons_append, splitFrom, if_neg other,
      ih _ fun there ↦ none_ (List.mem_cons_of_mem _ there)]
    simp

theorem split_of_not_mem (none_ : separator ∉ piece) : split separator piece = [piece] := by
  have whole := splitFrom_append [] [] none_
  rw [List.append_nil] at whole
  rw [split, whole, splitFrom]
  simp

/-- **A separator ends a piece.** -/
theorem split_append (rest : Bytes) (none_ : separator ∉ piece) :
    split separator (piece ++ separator :: rest) = piece :: split separator rest := by
  rw [split, splitFrom_append _ _ none_, splitFrom, if_pos rfl]
  simp [split]

theorem splitFrom_append_cons (word front back : Bytes) :
    splitFrom separator word (front ++ separator :: back)
      = splitFrom separator word front ++ split separator back := by
  induction front generalizing word with
  | nil => simp [splitFrom, split]
  | cons b bs ih =>
    rw [List.cons_append, splitFrom, splitFrom]
    split
    · rw [ih, List.cons_append]
    · exact ih (b :: word)

theorem split_append_cons (separator : UInt8) (front back : Bytes) :
    split separator (front ++ separator :: back) = split separator front ++ split separator back :=
  splitFrom_append_cons [] front back

/-- Pieces that were put together with separators are found again. -/
theorem split_intercalate {pieces : List Bytes} (some_ : pieces ≠ [])
    (none_ : ∀ piece ∈ pieces, separator ∉ piece) :
    split separator ([separator].intercalate pieces) = pieces := by
  induction pieces with
  | nil => exact absurd rfl some_
  | cons piece pieces ih =>
    have here := none_ piece List.mem_cons_self
    cases pieces with
    | nil => simpa using split_of_not_mem here
    | cons next pieces =>
      rw [List.intercalate_cons_cons, List.append_assoc, List.singleton_append, split_append _ here,
        ih (List.cons_ne_nil _ _) fun piece there ↦ none_ piece (List.mem_cons_of_mem _ there)]

theorem splitFrom_eq_cons (separator : UInt8) (word bs : Bytes) :
    ∃ piece pieces, splitFrom separator word bs = piece :: pieces := by
  induction bs generalizing word with
  | nil => exact ⟨_, _, rfl⟩
  | cons b bs ih =>
    rw [splitFrom]
    split
    · exact ⟨_, _, rfl⟩
    · exact ih (b :: word)

theorem intercalate_splitFrom (word bs : Bytes) :
    [separator].intercalate (splitFrom separator word bs) = word.reverse ++ bs := by
  induction bs generalizing word with
  | nil => simp [splitFrom]
  | cons b bs ih =>
    rw [splitFrom]
    split
    · next here =>
      have rest := ih []
      obtain ⟨piece, pieces, cut⟩ := splitFrom_eq_cons separator [] bs
      rw [cut] at rest ⊢
      rw [List.intercalate_cons_cons, rest, here]
      simp
    · rw [ih]
      simp

/-- **What was taken apart** is its pieces put together again. -/
theorem intercalate_split (separator : UInt8) (bs : Bytes) :
    [separator].intercalate (split separator bs) = bs :=
  intercalate_splitFrom [] bs

theorem not_mem_of_mem_splitFrom {word bs : Bytes} (clean : separator ∉ word)
    (there : piece ∈ splitFrom separator word bs) : separator ∉ piece := by
  induction bs generalizing word with
  | nil =>
    rw [List.mem_singleton.mp there, List.mem_reverse]
    exact clean
  | cons b bs ih =>
    rw [splitFrom] at there
    split at there
    · rcases List.mem_cons.mp there with rfl | later
      · rwa [List.mem_reverse]
      · exact ih List.not_mem_nil later
    · next other =>
      refine ih (fun mem ↦ ?_) there
      rcases List.mem_cons.mp mem with same | mem
      · exact other same.symm
      · exact clean mem

theorem not_mem_of_mem_split {bs : Bytes} (there : piece ∈ split separator bs) :
    separator ∉ piece :=
  not_mem_of_mem_splitFrom List.not_mem_nil there

theorem mem_intercalate {b : UInt8} {pieces : List Bytes}
    (h : b ∈ [separator].intercalate pieces) : b = separator ∨ ∃ piece ∈ pieces, b ∈ piece := by
  induction pieces with
  | nil => cases h
  | cons piece pieces ih =>
    cases pieces with
    | nil => exact Or.inr ⟨piece, List.mem_cons_self, by simpa using h⟩
    | cons next pieces =>
      rw [List.intercalate_cons_cons, List.append_assoc, List.mem_append, List.singleton_append,
        List.mem_cons] at h
      rcases h with here | here | there
      · exact Or.inr ⟨piece, List.mem_cons_self, here⟩
      · exact Or.inl here
      · exact (ih there).imp_right fun ⟨piece, mem, within⟩ ↦
          ⟨piece, List.mem_cons_of_mem _ mem, within⟩

/-- A search passes over octets that are not the first of the needle. -/
theorem findFrom_append_of_not_mem {first : UInt8} {needle : Bytes} (i : Nat) (rest : Bytes)
    (none_ : first ∉ piece) : findFrom (first :: needle) i (piece ++ rest)
      = findFrom (first :: needle) (i + piece.length) rest := by
  induction piece generalizing i with
  | nil => rfl
  | cons b bs ih =>
    have other : first ≠ b := fun same ↦ none_ (same ▸ List.mem_cons_self)
    have missed : ¬ (first :: needle).isPrefixOf (b :: (bs ++ rest)) = true := by
      simp [other]
    rw [List.cons_append, findFrom, if_neg missed,
      ih _ fun there ↦ none_ (List.mem_cons_of_mem _ there), List.length_cons]
    congr 1
    omega

end PaymentRelay.Bytes
