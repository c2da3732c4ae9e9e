import Mathlib.Data.List.Perm.Basic

/-!
# Lists with one entry changed

What is collected from the entries of a list, before and after one of them changes.
-/

namespace PaymentRelay

section Modify

variable {α β : Type} {l : List α} {a : Nat} {x : α}

theorem flatMap_modify (h : l[a]? = some x) (f : α → α) (g : α → List β) :
    ∃ before after, l.flatMap g = before ++ g x ++ after ∧
      (l.modify a f).flatMap g = before ++ g (f x) ++ after := by
  induction l generalizing a with
  | nil => cases h
  | cons y l ih =>
    cases a with
    | zero =>
      cases h
      exact ⟨[], l.flatMap g, List.flatMap_cons, List.flatMap_cons⟩
    | succ a =>
      obtain ⟨before, after, was, is_⟩ := ih h
      refine ⟨g y ++ before, after, ?_, ?_⟩
      · rw [List.flatMap_cons, was]
        simp only [List.append_assoc]
      · rw [List.modify_succ_cons, List.flatMap_cons, is_]
        simp only [List.append_assoc]

theorem filterMap_modify (h : l[a]? = some x) (f : α → α) (g : α → Option β) :
    ∃ before after, l.filterMap g = before ++ (g x).toList ++ after ∧
      (l.modify a f).filterMap g = before ++ (g (f x)).toList ++ after := by
  simp only [List.filterMap_eq_flatMap_toList]
  exact flatMap_modify h f fun x ↦ (g x).toList

theorem filterMap_modify_of_eq {f : α → α} {g : α → Option β} (h : l[a]? = some x)
    (same : g (f x) = g x) : (l.modify a f).filterMap g = l.filterMap g := by
  obtain ⟨before, after, was, is_⟩ := filterMap_modify h f g
  rw [was, is_, same]

theorem filterMap_modify_perm {f : α → α} {g : α → Option β} {b : β} (h : l[a]? = some x)
    (none_ : g x = none) (some_ : g (f x) = some b) :
    ((l.modify a f).filterMap g).Perm (b :: l.filterMap g) := by
  obtain ⟨before, after, was, is_⟩ := filterMap_modify h f g
  rw [was, is_, none_, some_, Option.toList_none, Option.toList_some, List.append_nil,
    List.append_assoc]
  exact List.perm_middle

end Modify

end PaymentRelay
