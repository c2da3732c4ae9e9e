/-!
# Payment processors

There are two: main and fallback. Each has its own side of the ledger and its own health.
-/

namespace PaymentRelay

/-- A payment processor, and the side of the ledger that its payments stand on. -/
inductive Source where
  | main
  | fallback
deriving DecidableEq, Repr

def Source.label : Source → String
  | .main => "Main"
  | .fallback => "Fallback"

/-- One value for each processor. -/
structure PerSource (α : Type) where
  main : α
  fallback : α
deriving DecidableEq, Repr

namespace PerSource

variable {α : Type}

/-- The value for a processor. -/
def get (p : PerSource α) : Source → α
  | .main => p.main
  | .fallback => p.fallback

/-- Another value for one processor. -/
def set (p : PerSource α) (source : Source) (value : α) : PerSource α :=
  match source with
  | .main => { p with main := value }
  | .fallback => { p with fallback := value }

def map {β : Type} (f : α → β) (p : PerSource α) : PerSource β := ⟨f p.main, f p.fallback⟩

@[simp] theorem get_set_self (p : PerSource α) (s : Source) (a : α) : (p.set s a).get s = a := by
  cases s <;> rfl

theorem get_set_of_ne (p : PerSource α) {s t : Source} (a : α) (h : t ≠ s) :
    (p.set s a).get t = p.get t := by
  cases s <;> cases t <;> simp_all [set, get]

end PerSource

end PaymentRelay
