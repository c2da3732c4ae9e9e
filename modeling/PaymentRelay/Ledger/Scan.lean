import PaymentRelay.Ledger

/-!
# Adding up while payments are recorded

A tally is not taken at one instant. It visits the buckets of its period one by one, from earlier
ones to later ones, and payments go on being recorded between two visits. A visit takes a bucket as
it stands. Which bucket is visited next is not settled here: a bucket that was made while the scan
was under way may be found or passed over, as long as the scan does not turn back.

Recording a payment is two steps here: the bucket of a new millisecond is there, and empty, before
the payment is put into it.
-/

namespace PaymentRelay

namespace Timeline

/-- Makes the bucket of a millisecond, unless it is there. -/
def insertBucket (t : Millis) : Timeline → Timeline
  | [] => [⟨t, #[]⟩]
  | b :: bs =>
    if b.at_ < t then ⟨t, #[]⟩ :: b :: bs
    else if b.at_ = t then b :: bs
    else b :: insertBucket t bs

/-- Puts a payment into the bucket of a millisecond, if it is there. -/
def pushInto (t : Millis) (amount : Decimal) : Timeline → Timeline
  | [] => []
  | b :: bs =>
    if b.at_ = t then { b with amounts := b.amounts.push amount } :: bs
    else b :: pushInto t amount bs

/-- Recording a payment is making its bucket and putting it there. -/
theorem pushInto_insertBucket (t : Millis) (amount : Decimal) (tl : Timeline) :
    (tl.insertBucket t).pushInto t amount = tl.save t amount := by
  induction tl with
  | nil => simp [insertBucket, pushInto, save]
  | cons b bs ih =>
    unfold insertBucket save
    split
    · simp [pushInto]
    · split
      · next h => simp [pushInto, h]
      · next h => simp [pushInto, h, ih]

def bucket? (tl : Timeline) (t : Millis) : Option Bucket := tl.find? (·.at_ = t)

end Timeline

/-- A tally under way. -/
structure Scan where
  /-- Buckets before this time have been visited or passed over. -/
  first : Millis
  /-- Buckets after this time are not visited. -/
  last : Millis
  /-- What the visited buckets came to. -/
  tally : Tally
deriving DecidableEq, Repr

namespace Scan

def start (first last : Millis) : Scan := ⟨first, last, .zero⟩

/-- The bucket of a millisecond, if it is there and the scan can still come to it. -/
def reach? (s : Scan) (tl : Timeline) (t : Millis) : Option Bucket :=
  if s.first ≤ t ∧ t ≤ s.last then tl.bucket? t else none

/-- Visits the bucket of a millisecond. -/
def visit (s : Scan) (tl : Timeline) (t : Millis) : Scan :=
  match s.reach? tl t with
  | some b => { s with first := t + 1, tally := s.tally.count b.amounts }
  | none => s

/-- What may happen next. -/
inductive Event where
  /-- The bucket of a millisecond is made. -/
  | insert (t : Millis)
  /-- A payment is put into the bucket of a millisecond. -/
  | push (t : Millis) (amount : Decimal)
  /-- The scan goes on to the bucket of a millisecond. -/
  | visit (t : Millis)
deriving DecidableEq, Repr

/-- The payments of a processor after a step. -/
def Event.change (tl : Timeline) : Event → Timeline
  | .insert t => tl.insertBucket t
  | .push t amount => tl.pushInto t amount
  | .visit _ => tl

/-- The payments of a processor and a scan of them, after a step. -/
def step (state : Timeline × Scan) (event : Event) : Timeline × Scan :=
  (event.change state.1,
    match event with
    | .visit t => state.2.visit state.1 t
    | _ => state.2)

/-- The payments and the scan after several steps. -/
def run (state : Timeline × Scan) (events : List Event) : Timeline × Scan := events.foldl step state

end Scan

end PaymentRelay
