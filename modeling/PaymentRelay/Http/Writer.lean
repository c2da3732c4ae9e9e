import PaymentRelay.Bytes.Basic
import PaymentRelay.Transport.Fault

/-!
# Writing several pieces as one

A message is written from several pieces without copying them together. A writer takes from the
front as many octets as it likes, and may stop in the middle of a piece; what it left is offered
again. When everything has been taken the writer is flushed, once.

A writer may have any grounds for what it takes. For one message all that comes of them is a number
for each call, and so a writer is the list of these numbers.
-/

namespace PaymentRelay.Writer

/-- How many octets a writer takes at most at its `n`th call. -/
abbrev Appetite := Nat → Nat

/-- The pieces without their first `n` octets; pieces that are used up are gone. -/
def advance (n : Nat) : List Bytes → List Bytes
  | [] => []
  | piece :: rest =>
    if piece.length ≤ n then advance (n - piece.length) rest else piece.drop n :: rest

/-- What a writer does. -/
inductive Act where
  /-- It is offered what is left, and takes these octets. -/
  | took (octets : Bytes)
  /-- It is flushed. -/
  | flushed
deriving DecidableEq, Repr

def Act.octets : Act → Bytes
  | .took octets => octets
  | .flushed => []

/-- What writing came to. -/
structure Report where
  result : Except Transport.Fault Unit
  /-- What the writer did, in order. -/
  acts : List Act

namespace Report

/-- The octets that were taken. -/
def written (report : Report) : Bytes := report.acts.flatMap Act.octets

def calls (report : Report) : Nat := report.acts.countP (· ≠ .flushed)

def flushes (report : Report) : Nat := report.acts.count .flushed

/-- The report with an act before all others. -/
def after (report : Report) (act : Act) : Report := { report with acts := act :: report.acts }

end Report

/-- Writes on when `remaining` octets are left and `calls` calls have been made. -/
def writeFrom (appetite : Appetite) (calls remaining : Nat) (pieces : List Bytes) : Report :=
  if remaining = 0 then ⟨.ok (), [.flushed]⟩
  else
    let octets := pieces.flatten.take (appetite calls)
    if octets.isEmpty then ⟨.error .writeZero, [.took []]⟩
    else
      (writeFrom appetite (calls + 1) (remaining - octets.length)
        (advance octets.length pieces)).after (.took octets)
termination_by remaining
decreasing_by
  have taken_pos : 0 < octets.length :=
    List.length_pos_iff.mpr (by simpa using ‹¬octets.isEmpty = true›)
  exact Nat.sub_lt (Nat.pos_of_ne_zero ‹_›) taken_pos

def write (appetite : Appetite) (pieces : List Bytes) : Report :=
  writeFrom appetite 0 pieces.flatten.length pieces

end PaymentRelay.Writer
