import PaymentRelay.Payment.Summary
import PaymentRelay.Time.Instant

/-!
# The ledger

What each processor has taken, by the millisecond in which it was asked. The payments of one
millisecond share a bucket and stand there in the order in which they were recorded; buckets are
kept in the order of their time, the latest first, because payments are mostly recorded as time goes
on.

A summary adds up the buckets of a period from the earliest to the latest, and within a bucket in
the order of recording. The order matters: sums of amounts are rounded where they do not fit.
-/

namespace PaymentRelay

/-- The payments of one millisecond. -/
structure Bucket where
  at_ : Millis
  amounts : Array Decimal
deriving DecidableEq, Repr

/-- The payments of one processor, the latest bucket first. -/
abbrev Timeline := List Bucket

namespace Timeline

/-- Records a payment in the bucket of its millisecond, which is made if there is none. -/
def save (t : Millis) (amount : Decimal) : Timeline → Timeline
  | [] => [⟨t, #[amount]⟩]
  | b :: bs =>
    if b.at_ < t then ⟨t, #[amount]⟩ :: b :: bs
    else if b.at_ = t then { b with amounts := b.amounts.push amount } :: bs
    else b :: save t amount bs

/-- The buckets of a period, the earliest first. -/
def within (first last : Millis) (tl : Timeline) : List Bucket :=
  (tl.filter fun b ↦ first ≤ b.at_ && b.at_ ≤ last).reverse

/-- Count and total of a period, both ends included. -/
def tally (first last : Millis) (tl : Timeline) : Tally :=
  (tl.within first last).foldl (fun t b ↦ t.count b.amounts) .zero

end Timeline

/-- The payments of both processors. -/
abbrev Ledger := PerSource Timeline

namespace Ledger

def empty : Ledger := ⟨[], []⟩

/-- Records a payment. -/
def save (l : Ledger) (source : Source) (t : Millis) (amount : Decimal) : Ledger :=
  l.set source ((l.get source).save t amount)

/-- Count and total of a processor in a period, both ends included; a period that ends before it
starts holds nothing. -/
def tally (l : Ledger) (source : Source) (first last : Millis) : Tally :=
  if last < first then .zero else (l.get source).tally first last

def summary (l : Ledger) (first last : Millis) : Summary :=
  ⟨l.tally .main first last, l.tally .fallback first last⟩

end Ledger

end PaymentRelay
