import PaymentRelay.Retry.Queue

/-!
# A queue with several callers

One caller at a time looks at the entries, and adds one or takes a batch. How many were dropped is
counted outside of that. A caller who finds the queue full lets go of it; then he counts his entry,
by which he learns the number that it has among the dropped; then he reports the queue full if that
number is a milestone, and is told that his entry was dropped. Between any two of these steps the
others may do anything.

Here are a queue and all the calls that ever brought it an entry. One event is one atomic step, and
events may come in any order. Beside the new state stands what was seen of the step.
-/

namespace PaymentRelay.RetryQueue

/-- How far a call has come that brings an entry. -/
inductive Progress where
  /-- The queue has taken the entry, and the caller has been told so. -/
  | accepted
  /-- The queue was full. -/
  | refused
  /-- The entry has been counted, and was the `n`th to be dropped. -/
  | counted (n : Nat)
  /-- It has been reported if need be, and the caller has been told that it was dropped. -/
  | told (n : Nat)
deriving DecidableEq, Repr

/-- A call that brings an entry. -/
structure Call (α : Type) where
  entry : α
  progress : Progress
deriving DecidableEq, Repr

/-- A queue and those who have brought it entries. -/
structure Shared (α : Type) where
  queue : RetryQueue α
  /-- The calls, in the order in which they came to the queue. -/
  calls : Array (Call α)
deriving DecidableEq, Repr

/-- A step. -/
inductive Event (α : Type) where
  /-- A caller brings an entry to the queue. -/
  | offer (entry : α)
  /-- A caller counts his entry, if the queue had no room for it. -/
  | count (call : Nat)
  /-- A caller who has counted his entry reports it if need be, and is told. -/
  | tell (call : Nat)
  /-- Up to `n` entries are taken. -/
  | drain (n : Nat)
deriving DecidableEq, Repr

/-- What is seen of a step. -/
inductive Effect (α : Type) where
  /-- These entries were taken. -/
  | drained (batch : Array α)
  /-- The queue was reported to be full. -/
  | reported (text : String)
deriving DecidableEq, Repr

variable {α : Type}

def countDrop (q : RetryQueue α) : RetryQueue α := { q with dropped := q.dropped + 1 }

namespace Shared

/-- A queue to which nobody has come. -/
def new (capacity : Nat) : Shared α := ⟨.new capacity, #[]⟩

def setProgress (s : Shared α) (call : Nat) (progress : Progress) : Shared α :=
  { s with calls := s.calls.modify call ({ · with progress }) }

/-- A caller brings an entry to the queue. -/
def offer (s : Shared α) (entry : α) : Shared α :=
  if s.queue.isFull then { s with calls := s.calls.push ⟨entry, .refused⟩ }
  else ⟨s.queue.enqueue entry, s.calls.push ⟨entry, .accepted⟩⟩

/-- A caller counts his entry, and has the number that the count has come to. -/
def count (s : Shared α) (call : Nat) : Shared α :=
  { s with queue := s.queue.countDrop }.setProgress call (.counted s.queue.countDrop.dropped)

/-- The report that is due for the `n`th dropped entry. -/
def reportFor (s : Shared α) (n : Nat) : Option String :=
  if isMilestone n then some (wording s.queue.capacity n) else none

/-- The state after a step, and what was seen of it. -/
def step (s : Shared α) : Event α → Shared α × List (Effect α)
  | .offer entry => (s.offer entry, [])
  | .count call =>
    match (s.calls[call]?).map Call.progress with
    | some .refused => (s.count call, [])
    | _ => (s, [])
  | .tell call =>
    match (s.calls[call]?).map Call.progress with
    | some (.counted n) => (s.setProgress call (.told n), ((s.reportFor n).map .reported).toList)
    | _ => (s, [])
  | .drain n =>
    let (batch, queue) := s.queue.drain n
    ({ s with queue }, [.drained batch])

/-- The state after several steps, and what was seen of them. -/
def run (s : Shared α) : List (Event α) → Shared α × List (Effect α)
  | [] => (s, [])
  | event :: events =>
    let (s, seen) := s.step event
    let (s, more) := s.run events
    (s, seen ++ more)

end Shared

end PaymentRelay.RetryQueue
