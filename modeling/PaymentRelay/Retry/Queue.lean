import PaymentRelay.Number.Power

/-!
# The retry queue

Payloads that could not be dispatched wait here, first come, first served. The queue is bounded: an
entry that finds it full is dropped and counted, and nothing that is in the queue is ever pushed
out. The count is reported when it reaches a power of two, so that a flood does not become a flood
of reports.
-/

namespace PaymentRelay

/-- A bounded queue. -/
structure RetryQueue (α : Type) where
  capacity : Nat
  /-- The entries, the oldest first. -/
  entries : Array α
  /-- How many entries found the queue full. The count of the program has 64 bits, so this stands
  for fewer than 2^64 of them. -/
  dropped : Nat
deriving DecidableEq, Repr

namespace RetryQueue

variable {α : Type}

def new (capacity : Nat) : RetryQueue α := ⟨capacity, #[], 0⟩

def size (q : RetryQueue α) : Nat := q.entries.size

def isFull (q : RetryQueue α) : Bool := q.capacity ≤ q.size

/-- Adds an entry at the end, or drops it if there is no room. -/
def enqueue (q : RetryQueue α) (entry : α) : RetryQueue α :=
  if q.isFull then { q with dropped := q.dropped + 1 }
  else { q with entries := q.entries.push entry }

/-- Takes up to `n` entries from the front. -/
def drain (q : RetryQueue α) (n : Nat) : Array α × RetryQueue α :=
  (q.entries.extract 0 n, { q with entries := q.entries.extract n q.size })

@[simp] theorem capacity_enqueue (q : RetryQueue α) (entry : α) :
    (q.enqueue entry).capacity = q.capacity := by
  rw [enqueue]
  split <;> rfl

@[simp] theorem capacity_drain (q : RetryQueue α) (n : Nat) :
    (q.drain n).2.capacity = q.capacity := rfl

theorem size_enqueue_le {q : RetryQueue α} (h : q.size ≤ q.capacity) (entry : α) :
    (q.enqueue entry).size ≤ q.capacity := by
  rw [enqueue]
  split
  · exact h
  · next room =>
    rw [isFull, decide_eq_true_eq, Nat.not_le, size] at room
    rw [size, Array.size_push]
    exact room

theorem size_drain_le (q : RetryQueue α) (n : Nat) : (q.drain n).2.size ≤ q.size := by
  rw [drain, size, Array.size_extract]
  exact Nat.le_trans (Nat.sub_le _ _) (Nat.min_le_right _ _)

theorem size_drain_fst_le (q : RetryQueue α) (n : Nat) : (q.drain n).1.size ≤ n := by
  rw [drain, Array.size_extract]
  exact Nat.le_trans (Nat.sub_le _ _) (Nat.min_le_left _ _)

/-- The count is a power of two. -/
def isMilestone (dropped : Nat) : Bool := dropped ≠ 0 && pow2 dropped.log2 = dropped

/-- The wording of a report: how many entries the queue has room for, and how many were dropped. -/
def wording (capacity dropped : Nat) : String :=
  s!"⚠️  Retry queue full ({capacity}), {dropped} payloads dropped so far"

def report (q : RetryQueue α) : String := wording q.capacity q.dropped

/-- The report that the last attempt to add an entry calls for, before which `dropped` entries had
been dropped. -/
def reportOf (dropped : Nat) (q : RetryQueue α) : Option String :=
  if q.dropped ≠ dropped && isMilestone q.dropped then some q.report else none

end RetryQueue

end PaymentRelay
