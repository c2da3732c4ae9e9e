import PaymentRelay.Http.Exchange
import PaymentRelay.Proofs.Bytes.Find

/-!
# Reading a response that is as long as it says

A response is framed if its head ends within the capacity of the reader and its body is as long as
the head says, and empty if the head does not say. What the reader knows of a framed response is
decided by how much of it has been read: `Stage.Knows` says what. Reading more of it leads to the
stage that knows more, to completion exactly when all of it has been read, or to a failure if its
first line is no status line; and nothing past its end is ever asked for.
-/

namespace PaymentRelay.Exchange

open Header (terminator)

/-- The status that a response tells in its first line. -/
def statusOf? (response : Bytes) : Option Status :=
  (response.findIdx? (· == Octet.lf)).bind fun i ↦ Status.ofLine? (response.take i)

/-- A response whose head ends within `capacity` octets and whose body is as long as the head says,
or empty if it does not say. -/
def Framed (capacity : Nat) (response : Bytes) : Prop :=
  ∃ i, Header.blockEnd? response = some i ∧ i + terminator.length ≤ capacity ∧
    response.length
      = i + terminator.length + (Header.contentLength? (response.take i)).getD 0

/-- What a stage of reading knows of a response of which `read` has been read. -/
def Stage.Knows (response read : Bytes) : Stage → Prop
  | .line buffer => buffer = read ∧ read.findIdx? (· == Octet.lf) = none
  | .block status buffer =>
    buffer = read ∧ statusOf? response = some status ∧ Header.blockEnd? read = none
  | .body answer _ _ missing =>
    statusOf? response = some answer.status ∧ 0 < missing ∧ read.length + missing = response.length

/-- How far the reading of a response has come of which `read` has been read. -/
def State.Knows (response read : Bytes) : State → Prop
  | .reading stage => stage.Knows response read
  | .complete result => read = response ∧ statusOf? response = some result.answer.status
  | .failed _ => statusOf? response = none

variable {terms : Terms} {response read : Bytes}

theorem findIdx?_of_prefix {p : UInt8 → Bool} {i : Nat} (start : read <+: response)
    (h : read.findIdx? p = some i) : response.findIdx? p = some i := by
  obtain ⟨more, rfl⟩ := start
  rw [List.findIdx?_append, h]
  rfl

theorem lt_length_of_findIdx? {p : UInt8 → Bool} {i : Nat} (h : read.findIdx? p = some i) :
    i < read.length := (List.findIdx?_eq_some_iff_getElem.mp h).1

theorem length_le_of_no_line {i : Nat} (ends : Header.blockEnd? response = some i)
    (start : read <+: response) (none_ : read.findIdx? (· == Octet.lf) = none) :
    read.length ≤ i + 1 := by
  refine Nat.le_of_not_lt fun long ↦ ?_
  -- the second octet of the blank line is a line feed
  have there : response[i + 1]? = some Octet.lf := by
    obtain ⟨tail, cut⟩ := Bytes.find?_prefix ends
    rw [← List.getElem?_drop, ← cut]
    rfl
  have within : i + 1 < read.length := by omega
  obtain ⟨more, rfl⟩ := start
  rw [List.getElem?_append_left within] at there
  have missed := List.findIdx?_eq_none_iff.mp none_ Octet.lf (List.mem_of_getElem? there)
  cases missed

theorem length_lt_of_no_block {i : Nat} (ends : Header.blockEnd? response = some i)
    (start : read <+: response) (none_ : Header.blockEnd? read = none) :
    read.length < i + terminator.length := by
  refine Nat.lt_of_not_le fun long ↦ ?_
  obtain ⟨more, rfl⟩ := start
  have there : Header.blockEnd? read = some i := Bytes.find?_of_append ends (by omega)
  rw [none_] at there
  cases there

theorem eq_of_prefix_of_length_le (start : read <+: response)
    (whole : response.length ≤ read.length) : read = response :=
  start.eq_of_length (Nat.le_antisymm start.length_le whole)

section Feeding

variable (framed : Framed terms.capacity response) (start : read <+: response)
include framed start

theorem knows_onBlock {status : Status} (told : statusOf? response = some status) :
    (onBlock terms status read).Knows response read := by
  obtain ⟨i, ends, fits, length⟩ := framed
  rw [onBlock]
  cases found : Header.blockEnd? read with
  | none =>
    have short := length_lt_of_no_block ends start found
    dsimp only
    rw [await, if_neg (by omega)]
    exact ⟨rfl, told, found⟩
  | some j =>
    obtain ⟨more, rfl⟩ := start
    have same : Header.blockEnd? (read ++ more) = some j := Bytes.find?_append more found
    rw [ends] at same
    cases same
    -- the head that has been read is the head of the response, so both say the same length
    have within : i + terminator.length ≤ read.length := Bytes.find?_add_le found
    rw [List.take_append_of_le_length (by omega), List.length_append] at length
    dsimp only
    rw [onBody]
    have arrived : ((read.drop (i + terminator.length)).take
        ((Header.contentLength? (read.take i)).getD 0)).length
          = read.length - (i + terminator.length) := by
      rw [List.length_take, List.length_drop]
      omega
    rw [arrived]
    split
    · next past =>
      refine ⟨eq_of_prefix_of_length_le (List.prefix_append read more) ?_, told⟩
      rw [List.length_append]
      omega
    · next left =>
      refine ⟨told, by omega, ?_⟩
      rw [List.length_append]
      omega

theorem knows_onLine : (onLine terms read).Knows response read := by
  rw [onLine]
  cases found : read.findIdx? (· == Octet.lf) with
  | none =>
    obtain ⟨i, ends, fits, length⟩ := framed
    have short := length_le_of_no_line ends start found
    have four : terminator.length = 4 := rfl
    dsimp only
    rw [await, if_neg (by omega)]
    exact ⟨rfl, found⟩
  | some i =>
    have within : i < read.length := lt_length_of_findIdx? found
    have told : statusOf? response = Status.ofLine? (read.take i) := by
      rw [statusOf?, findIdx?_of_prefix start found, Option.bind_some]
      obtain ⟨more, rfl⟩ := start
      rw [List.take_append_of_le_length (Nat.le_of_lt within)]
    dsimp only
    cases line : Status.ofLine? (read.take i) with
    | none => exact told.trans line
    | some status => exact knows_onBlock framed start (told.trans line)

end Feeding

/-- **Reading more of a framed response** leads to knowing more of it. -/
theorem knows_feed {stage : Stage} {octets : Bytes} (framed : Framed terms.capacity response)
    (knows : stage.Knows response read) (some_ : octets ≠ [])
    (start : read ++ octets <+: response) :
    (feed terms stage octets).Knows response (read ++ octets) := by
  unfold feed
  rw [List.isEmpty_eq_false_iff.mpr some_, if_neg Bool.false_ne_true]
  cases stage with
  | line buffer =>
    obtain ⟨rfl, -⟩ := knows
    exact knows_onLine framed start
  | block status buffer =>
    obtain ⟨rfl, told, -⟩ := knows
    exact knows_onBlock framed start told
  | body answer buffer pieces missing =>
    obtain ⟨told, left, length⟩ := knows
    have most := start.length_le
    rw [List.length_append] at most
    dsimp only
    rw [onBody]
    split
    · refine ⟨eq_of_prefix_of_length_le start ?_, told⟩
      rw [List.length_append]
      omega
    · refine ⟨told, by omega, ?_⟩
      rw [List.length_append]
      omega

theorem length_lt_of_knows {stage : Stage} (framed : Framed terms.capacity response)
    (knows : stage.Knows response read) (start : read <+: response) :
    read.length < response.length := by
  obtain ⟨i, ends, -, length⟩ := framed
  have four : terminator.length = 4 := rfl
  cases stage with
  | line buffer =>
    have short := length_le_of_no_line ends start knows.2
    omega
  | block status buffer =>
    have short := length_lt_of_no_block ends start knows.2.2
    omega
  | body answer buffer pieces missing =>
    obtain ⟨-, left, total⟩ := knows
    omega

theorem room_pos_of_knows {stage : Stage} (scratch : ∀ n, terms.sink = .discard n → 0 < n)
    (framed : Framed terms.capacity response) (knows : stage.Knows response read)
    (start : read <+: response) : 0 < stage.room terms := by
  obtain ⟨i, ends, fits, -⟩ := framed
  have four : terminator.length = 4 := rfl
  cases stage with
  | line buffer =>
    obtain ⟨rfl, none_⟩ := knows
    have short := length_le_of_no_line ends start none_
    rw [Stage.room]
    omega
  | block status buffer =>
    obtain ⟨rfl, -, none_⟩ := knows
    have short := length_lt_of_no_block ends start none_
    rw [Stage.room]
    omega
  | body answer buffer pieces missing =>
    obtain ⟨-, left, -⟩ := knows
    unfold Stage.room
    dsimp only
    split
    · exact left
    · next n sink => exact Nat.lt_min.mpr ⟨left, scratch n sink⟩

end PaymentRelay.Exchange
