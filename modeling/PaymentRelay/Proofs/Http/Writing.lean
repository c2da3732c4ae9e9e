import Mathlib.Algebra.BigOperators.Intervals
import PaymentRelay.Http.Writer

/-!
# Every octet is written once

However little a writer takes at a time, and wherever it stops, what it takes is the message, each
octet once and in order, and then it is flushed. Only a writer that takes nothing while something is
left ends the writing before that, and it is not flushed.

What carries the proof is that the count of what is left and the pieces themselves say the same: the
pieces that remain after a call are the rest of the message, `flatten_advance`. A writer is looked
at from each call on by `Appetite.since`.
-/

namespace PaymentRelay.Writer

/-! ## Writers -/

namespace Appetite

/-- What a writer takes from its `k`th call on. -/
def since (a : Appetite) (k : Nat) : Appetite := fun n ↦ a (k + n)

/-- How much a writer takes at most in its first `n` calls. -/
def upTo (a : Appetite) (n : Nat) : Nat := ∑ i ∈ Finset.range n, a i

/-- At some call the writer takes nothing while a part of so many octets is left. -/
def Balks (a : Appetite) (length : Nat) : Prop := ∃ n, a n = 0 ∧ a.upTo n < length

/-- The portions are what the first calls of a writer take of a message, and none is empty: each
call takes what it likes of what those before it have left. -/
def Takes (a : Appetite) (message : Bytes) (portions : List Bytes) : Prop :=
  ∀ (i : Nat) (h : i < portions.length),
    portions[i] ≠ [] ∧ portions[i] = (message.drop (a.upTo i)).take (a i)

@[simp] theorem since_zero (a : Appetite) : a.since 0 = a := by
  funext n
  rw [since, Nat.zero_add]

theorem since_succ (a : Appetite) (k : Nat) : (a.since k).since 1 = a.since (k + 1) := by
  funext n
  rw [since, since, since, Nat.add_assoc]

@[simp] theorem upTo_zero (a : Appetite) : a.upTo 0 = 0 := Finset.sum_range_zero _

theorem upTo_succ (a : Appetite) (n : Nat) : a.upTo (n + 1) = a 0 + (a.since 1).upTo n := by
  rw [upTo, Finset.sum_range_succ', Nat.add_comm]
  simp only [upTo, since, Nat.add_comm]

theorem not_balks {a : Appetite} (eager : ∀ n, 0 < a n) (length : Nat) : ¬ a.Balks length := by
  rintro ⟨n, zero, -⟩
  exact absurd zero (Nat.ne_of_gt (eager n))

theorem balks_iff {a : Appetite} {length : Nat} :
    a.Balks length ↔ 0 < length ∧ (a 0 = 0 ∨ (a.since 1).Balks (length - a 0)) := by
  constructor
  · rintro ⟨n, zero, less⟩
    refine ⟨Nat.zero_lt_of_lt less, ?_⟩
    rcases n with _ | n
    · exact .inl zero
    · rw [upTo_succ] at less
      exact .inr ⟨n, by rwa [since, Nat.add_comm], by omega⟩
  · rintro ⟨some_, zero | ⟨n, zero, less⟩⟩
    · exact ⟨0, zero, some_⟩
    · refine ⟨n + 1, by rwa [since, Nat.add_comm] at zero, ?_⟩
      rw [upTo_succ]
      omega

theorem takes_nil (a : Appetite) (message : Bytes) : a.Takes message [] := nofun

/-- What a writer takes is what its first call takes, and then what the others take of the rest. -/
theorem Takes.cons {a : Appetite} {message : Bytes} {portions : List Bytes}
    (some_ : message.take (a 0) ≠ []) (more : (a.since 1).Takes (message.drop (a 0)) portions) :
    a.Takes message (message.take (a 0) :: portions) := by
  intro i h
  rcases i with _ | i
  · exact ⟨some_, by rw [upTo_zero]; rfl⟩
  · obtain ⟨solid, taken⟩ := more i (Nat.lt_of_succ_lt_succ h)
    refine ⟨solid, ?_⟩
    rw [List.getElem_cons_succ, taken, List.drop_drop, upTo_succ, since, Nat.add_comm 1 i]

end Appetite

/-! ## Pieces -/

/-- **The pieces after a call are the rest of the message.** -/
@[simp] theorem flatten_advance (n : Nat) (pieces : List Bytes) :
    (advance n pieces).flatten = pieces.flatten.drop n := by
  induction pieces generalizing n with
  | nil => rw [advance, List.flatten_nil, List.drop_nil]
  | cons piece rest ih =>
    rw [advance, List.flatten_cons, List.drop_append]
    split
    · next used =>
      rw [ih, List.drop_eq_nil_of_le used, List.nil_append]
    · next more =>
      rw [List.flatten_cons, Nat.sub_eq_zero_of_le (Nat.le_of_not_le more), List.drop_zero]

theorem drop_length_take (n : Nat) (message : Bytes) :
    message.drop (message.take n).length = message.drop n := by
  rw [List.length_take]
  rcases Nat.le_total n message.length with within | beyond
  · rw [Nat.min_eq_left within]
  · rw [Nat.min_eq_right beyond, List.drop_length, List.drop_eq_nil_of_le beyond]

/-! ## Calls -/

theorem writeFrom_nothing (a : Appetite) (calls : Nat) (pieces : List Bytes) :
    writeFrom a calls 0 pieces = ⟨.ok (), [.flushed]⟩ := by
  rw [writeFrom, if_pos rfl]

theorem writeFrom_of_zero {a : Appetite} {calls : Nat} {pieces : List Bytes}
    (left : pieces.flatten ≠ []) (zero : a calls = 0) :
    writeFrom a calls pieces.flatten.length pieces = ⟨.error .writeZero, [.took []]⟩ := by
  have remaining : pieces.flatten.length ≠ 0 := fun h ↦ left (List.length_eq_zero_iff.mp h)
  rw [writeFrom, if_neg remaining]
  simp [zero]

theorem writeFrom_of_pos {a : Appetite} {calls : Nat} {pieces : List Bytes}
    (left : pieces.flatten ≠ []) (some_ : 0 < a calls) :
    ∃ rest : List Bytes, rest.flatten = pieces.flatten.drop (a calls) ∧
      writeFrom a calls pieces.flatten.length pieces
        = (writeFrom a (calls + 1) rest.flatten.length rest).after
            (.took (pieces.flatten.take (a calls))) := by
  have remaining : pieces.flatten.length ≠ 0 := fun h ↦ left (List.length_eq_zero_iff.mp h)
  have taken : (pieces.flatten.take (a calls)).isEmpty = false := by
    rw [List.isEmpty_eq_false_iff, ne_eq, List.take_eq_nil_iff, not_or]
    exact ⟨Nat.ne_of_gt some_, left⟩
  refine ⟨advance (pieces.flatten.take (a calls)).length pieces, ?_, ?_⟩
  · rw [flatten_advance, drop_length_take]
  · rw [writeFrom, if_neg remaining, flatten_advance, List.length_drop]
    simp [taken]

/-! ## The whole -/

/-- What comes of writing a message, in portions: all of it is taken and the writer is flushed after
the last, or the writer balks and is never flushed. -/
def Delivers (a : Appetite) (message : Bytes) (portions : List Bytes) (report : Report) : Prop :=
  a.Takes message portions ∧
    (¬ a.Balks message.length ∧ portions.flatten = message ∧
        report = ⟨.ok (), portions.map .took ++ [.flushed]⟩ ∨
      a.Balks message.length ∧ portions.flatten <+: message ∧ portions.flatten ≠ message ∧
        report = ⟨.error .writeZero, portions.map .took ++ [.took []]⟩)

/-- **A call takes its portion, and the rest is written after it.** -/
theorem Delivers.after {a : Appetite} {message : Bytes} {portions : List Bytes} {report : Report}
    (some_ : message.take (a 0) ≠ [])
    (more : Delivers (a.since 1) (message.drop (a 0)) portions report) :
    Delivers a message (message.take (a 0) :: portions)
      (report.after (.took (message.take (a 0)))) := by
  obtain ⟨taken, ends⟩ := more
  rw [ne_eq, List.take_eq_nil_iff, not_or] at some_
  have left : 0 < message.length := List.length_pos_iff.mpr some_.2
  have same : a.Balks message.length ↔ (a.since 1).Balks (message.drop (a 0)).length := by
    rw [Appetite.balks_iff, List.length_drop]
    exact ⟨fun h ↦ h.2.resolve_left some_.1, fun h ↦ ⟨left, .inr h⟩⟩
  have parts := List.take_append_drop (a 0) message
  refine ⟨Appetite.Takes.cons (by simpa using some_) taken, ?_⟩
  rw [same, List.flatten_cons]
  rcases ends with ⟨goes, whole, rfl⟩ | ⟨stops, part, short, rfl⟩
  · exact .inl ⟨goes, by rw [whole, parts], rfl⟩
  · refine .inr ⟨stops, ?_, ?_, rfl⟩
    · simpa only [parts] using (List.prefix_append_right_inj (message.take (a 0))).mpr part
    · intro h
      exact short (List.append_cancel_left (h.trans parts.symm))

theorem delivers_writeFrom (a : Appetite) (calls : Nat) (pieces : List Bytes) :
    ∃ portions, Delivers (a.since calls) pieces.flatten portions
      (writeFrom a calls pieces.flatten.length pieces) := by
  induction left : pieces.flatten.length using Nat.strong_induction_on
    generalizing calls pieces with
  | _ length ih =>
    subst left
    have first : (a.since calls) 0 = a calls := rfl
    by_cases none_ : pieces.flatten = []
    · refine ⟨[], Appetite.takes_nil _ _, .inl ⟨?_, none_.symm, ?_⟩⟩
      · rw [Appetite.balks_iff, none_]
        exact fun h ↦ absurd h.1 (Nat.lt_irrefl 0)
      · rw [none_, List.length_nil, writeFrom_nothing]
        rfl
    have some_ : 0 < pieces.flatten.length := List.length_pos_iff.mpr none_
    rcases Nat.eq_zero_or_pos (a calls) with zero | takes
    · refine ⟨[], Appetite.takes_nil _ _, .inr ⟨?_, List.nil_prefix, Ne.symm none_, ?_⟩⟩
      · exact Appetite.balks_iff.mpr ⟨some_, .inl zero⟩
      · exact writeFrom_of_zero none_ zero
    · obtain ⟨rest, rest_eq, written⟩ := writeFrom_of_pos none_ takes
      have shorter : rest.flatten.length < pieces.flatten.length := by
        rw [rest_eq, List.length_drop]
        exact Nat.sub_lt some_ takes
      obtain ⟨portions, more⟩ := ih _ shorter (calls + 1) rest rfl
      rw [rest_eq, ← Appetite.since_succ, ← first] at more
      refine ⟨pieces.flatten.take (a calls) :: portions, ?_⟩
      rw [written, rest_eq, ← first]
      refine Delivers.after ?_ more
      rw [first, ne_eq, List.take_eq_nil_iff, not_or]
      exact ⟨Nat.ne_of_gt takes, none_⟩

theorem written_portions (result : Except Transport.Fault Unit) (portions : List Bytes)
    (last : Act) :
    Report.written ⟨result, portions.map .took ++ [last]⟩ = portions.flatten ++ last.octets := by
  have same : (portions.map Act.took).flatMap Act.octets = portions.flatten := by
    rw [List.flatMap_def, List.map_map]
    exact congrArg List.flatten (List.map_id portions)
  rw [Report.written, List.flatMap_append, same, List.flatMap_singleton]

theorem flushes_portions (result : Except Transport.Fault Unit) (portions : List Bytes)
    (last : Act) :
    Report.flushes ⟨result, portions.map .took ++ [last]⟩ = [last].count .flushed := by
  have none_ : (portions.map Act.took).count .flushed = 0 := List.count_eq_zero.mpr (by simp)
  rw [Report.flushes, List.count_append, none_, Nat.zero_add]

theorem Appetite.Takes.length_le {a : Appetite} {message : Bytes} {portions : List Bytes}
    (taken : a.Takes message portions) : portions.length ≤ portions.flatten.length := by
  have solid : ∀ n ∈ portions.map List.length, 1 ≤ n := by
    intro n there
    obtain ⟨portion, mem, rfl⟩ := List.mem_map.mp there
    obtain ⟨i, h, rfl⟩ := List.getElem_of_mem mem
    exact List.length_pos_iff.mpr (taken i h).1
  rw [List.length_flatten]
  simpa using List.length_le_sum_of_one_le _ solid

/-- **Every octet is written once and in order**, whatever a writer takes at each call. The calls
take portions of the message, none of them empty, each what its call takes at most of what the calls
before have left.

* A writer that takes something at every call does not balk.
* Unless the writer balks, the portions are the message, and the writer is flushed once, after the
  last of them; if there is nothing to write it is flushed all the same.
* If the writer balks, which it does if some call takes nothing while something is left, writing
  fails; the portions are the beginning of the message and not all of it, the call that takes
  nothing is the last, and the writer is not flushed. -/
theorem written_once_in_order (appetite : Appetite) (pieces : List Bytes) :
    let message := pieces.flatten
    let report := write appetite pieces
    ((∀ n, 0 < appetite n) → ¬ appetite.Balks message.length) ∧
      ∃ portions : List Bytes, portions.length ≤ message.length ∧
        (∀ (i : Nat) (h : i < portions.length), portions[i] ≠ [] ∧
          portions[i] = (message.drop (appetite.upTo i)).take (appetite i)) ∧
        (¬ appetite.Balks message.length →
          report.result = .ok () ∧ report.acts = portions.map .took ++ [.flushed] ∧
            report.written = message ∧ report.flushes = 1) ∧
        (appetite.Balks message.length →
          report.result = .error .writeZero ∧ report.acts = portions.map .took ++ [.took []] ∧
            report.written <+: message ∧ report.written ≠ message ∧ report.flushes = 0) := by
  intro message report
  obtain ⟨portions, delivered⟩ := delivers_writeFrom appetite 0 pieces
  rw [Appetite.since_zero] at delivered
  obtain ⟨taken, ends⟩ : Delivers appetite message portions report := delivered
  have within : portions.flatten.length ≤ message.length := by
    rcases ends with ⟨-, whole, -⟩ | ⟨-, part, -⟩
    · exact Nat.le_of_eq (congrArg List.length whole)
    · exact part.length_le
  refine ⟨fun eager ↦ Appetite.not_balks eager _, portions, taken.length_le.trans within, taken,
    fun goes ↦ ?_, fun stops ↦ ?_⟩
  · obtain ⟨-, whole, done⟩ := ends.resolve_right fun h ↦ goes h.1
    rw [done, written_portions, flushes_portions, whole]
    exact ⟨rfl, rfl, List.append_nil _, rfl⟩
  · obtain ⟨-, part, short, done⟩ := ends.resolve_left fun h ↦ h.1 stops
    rw [done, written_portions, flushes_portions, Act.octets, List.append_nil]
    exact ⟨rfl, rfl, part, short, rfl⟩

/-- Two octets at a time, across the end of a piece and past an empty one. -/
example : (write (fun _ ↦ 2) [[1, 2, 3], [], [4, 5]]).acts
    = [.took [1, 2], .took [3, 4], .took [5], .flushed] := by decide +kernel

end PaymentRelay.Writer
