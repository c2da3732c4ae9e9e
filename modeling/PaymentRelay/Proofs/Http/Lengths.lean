import PaymentRelay.Proofs.Http.Grammar

/-!
# Declared lengths to the last digit

The length of a body is written as digits and found again as a number of 64 bits. What is written is
the shortest numeral, and there is always room for it. What is read is the value of the first line
of that name, and a value tells a length if and only if it is a numeral of it with blanks around,
whatever zeros stand in front. A numeral of a number that 64 bits cannot hold tells none, and not
what is left of it in 64 bits.

Which value counts is said here of the octets of a head: its lines end at line feeds, and the first
that begins with the name, in any case, has the value.
-/

namespace PaymentRelay.Header

open Octet (cr lf)
open Bytes (InBlanks)
open Numeral (IsNumeral IsShortest)

/-- The first line of a head that is of the name of the length has this value. The first of all
lines is not looked at, and a carriage return at the end of a line is no part of the value. -/
def FirstLength (head value : Bytes) : Prop :=
  ∃ first before name ending after,
    head = [lf].intercalate (first :: (before ++ (name ++ (value ++ ending)) :: after)) ∧
      (∀ line ∈ first :: (before ++ (name ++ (value ++ ending)) :: after), lf ∉ line) ∧
      (∀ line ∈ before, ¬ Named contentLengthName line) ∧
      Bytes.lower name = contentLengthName ∧ (ending = [] ∨ ending = [cr])

variable {head value name line digits : Bytes} {n : Nat}

/-! ## The line that counts -/

/-- A carriage return at its end has no part in the name of a line. -/
theorem Named.of_stripCr (named : Named name line.stripCr) : Named name line := by
  refine named.trans ?_
  rw [Bytes.stripCr]
  split
  · exact (List.dropLast_prefix line).map _
  · exact List.prefix_refl _

/-- Only the last octet can be a carriage return that is stripped. -/
theorem stripCr_append {front : Bytes} (kept : front.getLast? ≠ some cr) (back : Bytes) :
    Bytes.stripCr (front ++ back) = front ++ back.stripCr := by
  induction back using List.reverseRecOn with
  | nil =>
    rw [List.append_nil, Bytes.stripCr, if_neg kept]
    exact (List.append_nil front).symm
  | append_singleton back b _ =>
    rw [← List.append_assoc, Bytes.stripCr, Bytes.stripCr, List.getLast?_concat,
      List.getLast?_concat, List.dropLast_concat, List.dropLast_concat, List.append_assoc]
    exact (apply_ite (front ++ ·) _ _ _).symm

theorem trim_stripCr (line : Bytes) : line.stripCr.trim = line.trim := by
  rw [Bytes.stripCr]
  split
  · next last =>
    obtain ⟨front, rfl⟩ := List.getLast?_eq_some_iff.mp last
    rw [List.dropLast_concat, Bytes.trim_concat rfl]
  · rfl

theorem getLast?_of_lower (own : name.lower = contentLengthName) : name.getLast? ≠ some cr := by
  intro last
  obtain ⟨front, rfl⟩ := List.getLast?_eq_some_iff.mp last
  have ends := congrArg List.getLast? own
  rw [Bytes.lower, List.map_append, List.map_singleton, List.getLast?_concat] at ends
  revert ends
  decide

theorem value?_of_lower (own : name.lower = contentLengthName) (value : Bytes) :
    value? contentLengthName (name ++ value) = some value := by
  have named : Named contentLengthName (name ++ value) := by
    rw [Named, ← own, Bytes.lower, Bytes.lower, List.map_append]
    exact List.prefix_append _ _
  have long : contentLengthName.length = name.length := by
    rw [← own, Bytes.lower, List.length_map]
  rw [value?_of_named named, long, List.drop_left]

/-- **The first value counts**, and is read without the blanks around it. -/
theorem contentLength?_of_firstLength (found : FirstLength head value) :
    contentLength? head = Numeral.read? Numeral.limit64 value.trim := by
  obtain ⟨first, before, name, ending, after, rfl, whole, other, own, ends⟩ := found
  have cut : Header.lines
      ([lf].intercalate (first :: (before ++ (name ++ (value ++ ending)) :: after)))
        = before.map Bytes.stripCr ++
          (name ++ (value ++ ending).stripCr) :: after.map Bytes.stripCr := by
    rw [Header.lines, Bytes.split_intercalate (List.cons_ne_nil _ _) whole, List.drop_one,
      List.tail_cons, List.map_append, List.map_cons, stripCr_append (getLast?_of_lower own)]
  have passed : ∀ line ∈ before.map Bytes.stripCr, value? contentLengthName line = none := by
    intro line there
    obtain ⟨line, mem, rfl⟩ := List.mem_map.mp there
    exact value?_of_not_named (mt Named.of_stripCr (other line mem))
  have trimmed : Bytes.trim (value ++ ending) = value.trim := by
    rcases ends with rfl | rfl
    · rw [List.append_nil]
    · exact Bytes.trim_concat rfl value
  rw [contentLength?_of_value cut passed (value?_of_lower own _), trim_stripCr, trimmed]

/-! ## What its value tells -/

theorem trim_of_isNumeral (numeral : IsNumeral digits n) (blanks : InBlanks digits value) :
    value.trim = digits :=
  (Bytes.trim_eq_iff fun b there ↦ Octet.not_isBlank_of_isDigit (numeral.2.1 b there)).mpr blanks

theorem contentLength?_of_isNumeral (found : FirstLength head value)
    (blanks : InBlanks digits value) (numeral : IsNumeral digits n) :
    contentLength? head = if n < 2 ^ 64 then some n else none := by
  rw [contentLength?_of_firstLength found, trim_of_isNumeral numeral blanks]
  exact Numeral.read?_of_isNumeral (show 0 < Numeral.limit64 by decide) numeral

theorem isNumeral_of_contentLength? (found : FirstLength head value)
    (told : contentLength? head = some n) :
    ∃ digits, InBlanks digits value ∧ IsNumeral digits n ∧ n < 2 ^ 64 := by
  rw [contentLength?_of_firstLength found, Numeral.read?_eq_some_iff (by decide)] at told
  exact ⟨value.trim, Bytes.inBlanks_trim value, told⟩

/-- **Lengths are exact to the limit of 64 bits.**

* The digits of a number below the limit always fit an encoder's buffer, whatever the buffer held.
  They are its shortest numeral, and a head whose first length they are, with any blanks around
  them, tells that number.
* Whatever the value of the first length is, it tells a number exactly if it is a numeral of that
  number with blanks around and the number is below the limit.
* A numeral of any other number tells nothing. -/
theorem lengths_exact_to_limit :
    (∀ n < 2 ^ 64, (∀ dst : Vector UInt8 20, Numeral.write? dst n = some (Numeral.ofNat n)) ∧
        IsShortest (Numeral.ofNat n) n ∧
        ∀ head value, InBlanks (Numeral.ofNat n) value → FirstLength head value →
          contentLength? head = some n) ∧
      ∀ head value, FirstLength head value →
        (∀ n, contentLength? head = some n ↔
          ∃ digits, InBlanks digits value ∧ IsNumeral digits n ∧ n < 2 ^ 64) ∧
        ∀ digits n, InBlanks digits value → IsNumeral digits n → 2 ^ 64 ≤ n →
          contentLength? head = none := by
  constructor
  · intro n small
    refine ⟨fun dst ↦ ?_, Numeral.isShortest_ofNat n, fun head value blanks found ↦ ?_⟩
    · have room : n < 10 ^ 20 := by omega
      rw [Numeral.write?_eq, if_pos room]
    · rw [contentLength?_of_isNumeral found blanks (Numeral.isNumeral_ofNat n), if_pos small]
  · intro head value found
    refine ⟨fun n ↦ ⟨isNumeral_of_contentLength? found, ?_⟩, ?_⟩
    · rintro ⟨digits, blanks, numeral, small⟩
      rw [contentLength?_of_isNumeral found blanks numeral, if_pos small]
    · intro digits n blanks numeral large
      rw [contentLength?_of_isNumeral found blanks numeral, if_neg large.not_gt]

/-- The greatest length there is, written over the digits of another one, and read in a line after
one of a similar name and before one that does not count; the same with zeros in front; and the
number after it. -/
theorem greatest_length_exact :
    let old : Vector UInt8 20 := Vector.replicate 20 0x37
    let head := fun value ↦ utf8 "POST / HTTP/1.1\r\nContent-Length : 1\r\nCONTENT-length:" ++
      (value ++ utf8 "\r\nContent-Length: 7")
    let greatest := utf8 "18446744073709551615"
    let zeros := utf8 "\t 0018446744073709551615"
    let above := utf8 " 18446744073709551616\t"
    Numeral.write? old (2 ^ 64 - 1) = some greatest ∧ IsShortest greatest (2 ^ 64 - 1) ∧
      (∀ value ∈ [greatest, zeros, above], FirstLength (head value) value) ∧
      contentLength? (head greatest) = some (2 ^ 64 - 1) ∧
      contentLength? (head zeros) = some (2 ^ 64 - 1) ∧ contentLength? (head above) = none := by
  intro old head greatest zeros above
  have found : ∀ value ∈ [greatest, zeros, above], FirstLength (head value) value := by
    intro value there
    refine ⟨utf8 "POST / HTTP/1.1\r", [utf8 "Content-Length : 1\r"], utf8 "CONTENT-length:", [cr],
      [utf8 "Content-Length: 7"], ?_, ?_, by decide +kernel, by decide +kernel, .inr rfl⟩
    · revert value
      decide +kernel
    · revert value
      decide +kernel
  have digits : Numeral.ofNat (2 ^ 64 - 1) = greatest := by decide +kernel
  obtain ⟨writes, reads⟩ := lengths_exact_to_limit
  obtain ⟨written, shortest, told⟩ := writes (2 ^ 64 - 1) (by decide)
  rw [digits] at written shortest told
  refine ⟨written old, shortest, found, ?_, ?_, ?_⟩
  · exact told _ greatest (Bytes.inBlanks_self _) (found _ (by simp))
  · have blanks : InBlanks (utf8 "0018446744073709551615") zeros :=
      ⟨utf8 "\t ", [], by decide +kernel⟩
    exact ((reads _ zeros (found _ (by simp))).1 _).mpr
      ⟨_, blanks, by decide +kernel, by decide⟩
  · have blanks : InBlanks (utf8 "18446744073709551616") above :=
      ⟨utf8 " ", utf8 "\t", by decide +kernel⟩
    exact (reads _ above (found _ (by simp))).2 _ (2 ^ 64) blanks (by decide +kernel)
      (Nat.le_refl _)

end PaymentRelay.Header
