import PaymentRelay.Proofs.Http.Framed

/-!
# What a client reads at the front of a stream

A stream of responses without its cuts. Only the first `capacity` octets count for the head: the
first line in them tells the status, the first blank line in them ends the head, and the body is as
many octets after that as the head declares. `front` says what stands there of the octets that have
arrived: a whole response, something that is none, or less than a whole response.

Nothing of it is taken back when more arrives. So a reader need not know how the octets were cut:
what it has come to is what stands at the front of all that has arrived, and `State.Holds` says so
of each of its states.
-/

namespace PaymentRelay.Exchange

open Header (terminator)

/-- What stands at the front of the octets that have arrived. -/
inductive Front where
  /-- A whole response. -/
  | response (answer : Answer) (body : Bytes)
  /-- No response, whatever may come. -/
  | failed (fault : Transport.Fault)
  /-- Less than a whole response. -/
  | unfinished
deriving DecidableEq, Repr

/-- What stands at the front of a stream behind a head that ends at `i`. -/
def frontAfter (status : Status) (stream : Bytes) (i : Nat) : Front :=
  let length := (Header.contentLength? (stream.take i)).getD 0
  let rest := stream.drop (i + terminator.length)
  if length ≤ rest.length then .response ⟨status, length⟩ (rest.take length) else .unfinished

/-- What stands at the front of a stream if a head must end within `capacity` octets. -/
def front (capacity : Nat) (stream : Bytes) : Front :=
  let start := stream.take capacity
  let more : Front := if capacity ≤ stream.length then .failed .oversizeHead else .unfinished
  match start.findIdx? (· == Octet.lf) with
  | none => more
  | some i =>
    match Status.ofLine? (start.take i) with
    | none => .failed .malformedStatusLine
    | some status =>
      match Header.blockEnd? start with
      | none => more
      | some i => frontAfter status stream i

section Fronts

variable {capacity : Nat} {stream : Bytes}

theorem front_of_no_line (h : (stream.take capacity).findIdx? (· == Octet.lf) = none) :
    front capacity stream
      = if capacity ≤ stream.length then .failed .oversizeHead else .unfinished := by
  simp only [front, h]

theorem front_of_no_status {i : Nat}
    (h : (stream.take capacity).findIdx? (· == Octet.lf) = some i)
    (line : Status.ofLine? ((stream.take capacity).take i) = none) :
    front capacity stream = .failed .malformedStatusLine := by
  simp only [front, h, line]

theorem front_of_no_block {status : Status} (told : statusOf? (stream.take capacity) = some status)
    (h : Header.blockEnd? (stream.take capacity) = none) :
    front capacity stream
      = if capacity ≤ stream.length then .failed .oversizeHead else .unfinished := by
  obtain ⟨i, found, line⟩ := Option.bind_eq_some_iff.mp told
  simp only [front, found, line, h]

theorem front_of_block {status : Status} {i : Nat}
    (told : statusOf? (stream.take capacity) = some status)
    (h : Header.blockEnd? (stream.take capacity) = some i) :
    front capacity stream = frontAfter status stream i := by
  obtain ⟨j, found, line⟩ := Option.bind_eq_some_iff.mp told
  simp only [front, found, line, h]

theorem statusOf?_append {read : Bytes} {status : Status} (more : Bytes)
    (told : statusOf? read = some status) : statusOf? (read ++ more) = some status := by
  obtain ⟨i, found, line⟩ := Option.bind_eq_some_iff.mp told
  have within : i ≤ read.length := Nat.le_of_lt (lt_length_of_findIdx? found)
  rw [statusOf?, findIdx?_of_prefix (List.prefix_append _ _) found, Option.bind_some,
    List.take_append_of_le_length within, line]

/-- A whole response stays where it is when more arrives. -/
theorem frontAfter_append {status : Status} {i : Nat} (more : Bytes)
    (within : i + terminator.length ≤ stream.length)
    (whole : frontAfter status stream i ≠ .unfinished) :
    frontAfter status (stream ++ more) i = frontAfter status stream i := by
  have head : (stream ++ more).take i = stream.take i :=
    List.take_append_of_le_length (Nat.le_of_add_right_le within)
  have tail : (stream ++ more).drop (i + terminator.length)
      = stream.drop (i + terminator.length) ++ more := List.drop_append_of_le_length within
  unfold frontAfter at whole ⊢
  dsimp only at whole ⊢
  rw [head, tail]
  split at whole
  · next enough =>
    rw [if_pos enough, if_pos (by rw [List.length_append]; omega),
      List.take_append_of_le_length enough]
  · exact absurd rfl whole

/-- **What stands at the front is not taken back** when more arrives. -/
theorem front_append (more : Bytes) (settled : front capacity stream ≠ .unfinished) :
    front capacity (stream ++ more) = front capacity stream := by
  have start : (stream ++ more).take capacity
      = stream.take capacity ++ more.take (capacity - stream.length) := List.take_append
  have full_of : (if capacity ≤ stream.length then Front.failed .oversizeHead else .unfinished)
      ≠ .unfinished → capacity ≤ stream.length := by
    intro some_
    by_contra room
    exact some_ (if_neg room)
  cases found : (stream.take capacity).findIdx? (· == Octet.lf) with
  | none =>
    rw [front_of_no_line found] at settled
    have full := full_of settled
    have same : (stream ++ more).take capacity = stream.take capacity :=
      List.take_append_of_le_length full
    rw [front_of_no_line found, front_of_no_line (same ▸ found), if_pos full,
      if_pos (Nat.le_trans full (by simp))]
  | some i =>
    have within := Nat.le_of_lt (lt_length_of_findIdx? found)
    cases line : Status.ofLine? ((stream.take capacity).take i) with
    | none =>
      rw [front_of_no_status found line]
      refine front_of_no_status (i := i) ?_ ?_
      · rw [start]
        exact findIdx?_of_prefix (List.prefix_append _ _) found
      · rw [start, List.take_append_of_le_length within]
        exact line
    | some status =>
      have told : statusOf? (stream.take capacity) = some status := by
        rw [statusOf?, found, Option.bind_some, line]
      have told' : statusOf? ((stream ++ more).take capacity) = some status := by
        rw [start]
        exact statusOf?_append _ told
      cases ends : Header.blockEnd? (stream.take capacity) with
      | none =>
        rw [front_of_no_block told ends] at settled
        have full := full_of settled
        have same : (stream ++ more).take capacity = stream.take capacity :=
          List.take_append_of_le_length full
        rw [front_of_no_block told ends, front_of_no_block told' (same ▸ ends), if_pos full,
          if_pos (Nat.le_trans full (by simp))]
      | some j =>
        have there : j + terminator.length ≤ (stream.take capacity).length :=
          Bytes.find?_add_le ends
        rw [List.length_take] at there
        rw [front_of_block told ends] at settled ⊢
        rw [front_of_block told' (start ▸ Bytes.find?_append _ ends)]
        exact frontAfter_append more (by omega) settled

/-- A whole response stands at the front of a stream: its head ends within `capacity` octets and
tells this status in its first line, and this body follows, which is as long as the head says, or
empty if the head does not say. -/
def Whole (capacity : Nat) (stream : Bytes) (status : Status) (body : Bytes) : Prop :=
  ∃ i, Header.blockEnd? stream = some i ∧ i + terminator.length ≤ capacity ∧
    statusOf? stream = some status ∧
    body.length = (Header.contentLength? (stream.take i)).getD 0 ∧
    body <+: stream.drop (i + terminator.length)

theorem whole_of_front {answer : Answer} {body : Bytes}
    (h : front capacity stream = .response answer body) :
    Whole capacity stream answer.status body := by
  unfold front at h
  dsimp only at h
  split at h
  · split at h <;> cases h
  next i found =>
  split at h
  · cases h
  next status line =>
  have told : statusOf? (stream.take capacity) = some status := by
    rw [statusOf?, found, Option.bind_some, line]
  split at h
  · split at h <;> cases h
  next j ends =>
  have within := Bytes.find?_add_le ends
  rw [List.length_take] at within
  rw [frontAfter] at h
  split at h
  · next enough =>
    cases h
    refine ⟨j, ?_, by omega, ?_, List.length_take_of_le enough, List.take_prefix _ _⟩
    · rw [← List.take_append_drop capacity stream]
      exact Bytes.find?_append _ ends
    · rw [← List.take_append_drop capacity stream]
      exact statusOf?_append _ told
  · cases h

theorem front_of_whole {status : Status} {body : Bytes} (h : Whole capacity stream status body) :
    front capacity stream = .response ⟨status, body.length⟩ body := by
  obtain ⟨i, ends, fits, told, length, tail⟩ := h
  have within : i + terminator.length ≤ stream.length := Bytes.find?_add_le ends
  have four : terminator.length = 4 := rfl
  have start : stream.take capacity <+: stream := List.take_prefix _ _
  have ends' : Header.blockEnd? (stream.take capacity) = some i := by
    rw [← List.take_append_drop capacity stream] at ends
    refine Bytes.find?_of_append ends ?_
    · rw [List.length_take]
      omega
  have told' : statusOf? (stream.take capacity) = some status := by
    cases found : (stream.take capacity).findIdx? (· == Octet.lf) with
    | none =>
      have short := length_le_of_no_line ends start found
      rw [List.length_take] at short
      omega
    | some j =>
      rw [statusOf?, findIdx?_of_prefix start found, Option.bind_some] at told
      have before : j ≤ capacity :=
        Nat.le_trans (Nat.le_of_lt (lt_length_of_findIdx? found)) (List.length_take_le _ _)
      rw [statusOf?, found, Option.bind_some, List.take_take, Nat.min_eq_left before, told]
  rw [front_of_block told' ends', frontAfter, ← length, if_pos tail.length_le,
    ← List.prefix_iff_eq_take.mp tail]

end Fronts

/-! ## The reader -/

/-- The octets that have been read have brought the reader to this stage. -/
def Stage.Holds (terms : Terms) (read : Bytes) : Stage → Prop
  | .line buffer =>
    buffer = read ∧ read.length < terms.capacity ∧ read.findIdx? (· == Octet.lf) = none
  | .block status buffer =>
    buffer = read ∧ read.length < terms.capacity ∧ statusOf? read = some status ∧
      Header.blockEnd? read = none
  | .body answer _ pieces missing =>
    ∃ i, Header.blockEnd? (read.take terms.capacity) = some i ∧
      statusOf? (read.take terms.capacity) = some answer.status ∧
      answer.length = (Header.contentLength? (read.take i)).getD 0 ∧ 0 < missing ∧
      read.length + missing = i + terminator.length + answer.length ∧
      (terms.sink = .collect → pieces.reverse.flatten = read.drop (i + terminator.length))

/-- The octets that have been read have brought the reader to this state. -/
def State.Holds (terms : Terms) (read : Bytes) : State → Prop
  | .reading stage => stage.Holds terms read
  | .complete response => ∃ body, front terms.capacity read = .response response.answer body ∧
      (terms.sink = .collect → response.body = body)
  | .failed fault => front terms.capacity read = .failed fault

variable {terms : Terms} {read : Bytes}

theorem holds_onBlock {status : Status} (fits : read.length ≤ terms.capacity)
    (told : statusOf? read = some status) : (onBlock terms status read).Holds terms read := by
  have whole : read.take terms.capacity = read := List.take_of_length_le fits
  rw [onBlock]
  cases ends : Header.blockEnd? read with
  | none =>
    have front_ : front terms.capacity read
        = if terms.capacity ≤ read.length then .failed .oversizeHead else .unfinished :=
      front_of_no_block (whole.symm ▸ told) (whole.symm ▸ ends)
    dsimp only
    rw [await]
    split
    · next full => exact front_.trans (if_pos full)
    · next room => exact ⟨rfl, Nat.lt_of_not_le room, told, ends⟩
  | some i =>
    have front_ : front terms.capacity read = frontAfter status read i :=
      front_of_block (whole.symm ▸ told) (whole.symm ▸ ends)
    have within : i + terminator.length ≤ read.length := Bytes.find?_add_le ends
    dsimp only
    have arrived (length : Nat) : ((read.drop (i + terminator.length)).take length).length
        = min length (read.length - (i + terminator.length)) := by
      rw [List.length_take, List.length_drop]
    rw [onBody, arrived]
    split
    · next enough =>
      refine ⟨_, front_.trans (if_pos ?_), fun _ ↦ by simp⟩
      rw [List.length_drop]
      omega
    · next more =>
      refine ⟨i, whole.symm ▸ ends, whole.symm ▸ told, rfl, by omega, by dsimp only; omega,
        fun _ ↦ ?_⟩
      have all : (read.drop (i + terminator.length)).length
          ≤ (Header.contentLength? (read.take i)).getD 0 := by
        rw [List.length_drop]
        omega
      simp [List.take_of_length_le all]

theorem holds_onLine (fits : read.length ≤ terms.capacity) :
    (onLine terms read).Holds terms read := by
  have whole : read.take terms.capacity = read := List.take_of_length_le fits
  rw [onLine]
  cases found : read.findIdx? (· == Octet.lf) with
  | none =>
    have front_ : front terms.capacity read
        = if terms.capacity ≤ read.length then .failed .oversizeHead else .unfinished :=
      front_of_no_line (whole.symm ▸ found)
    dsimp only
    rw [await]
    split
    · next full => exact front_.trans (if_pos full)
    · next room => exact ⟨rfl, Nat.lt_of_not_le room, found⟩
  | some i =>
    dsimp only
    cases line : Status.ofLine? (read.take i) with
    | none => exact front_of_no_status (whole.symm ▸ found) (whole.symm ▸ line)
    | some status =>
      refine holds_onBlock fits ?_
      rw [statusOf?, found, Option.bind_some, line]

theorem frontAfter_of_length {status : Status} {i length : Nat}
    (declared : length = (Header.contentLength? (read.take i)).getD 0)
    (whole : (read.drop (i + terminator.length)).length = length) :
    frontAfter status read i = .response ⟨status, length⟩ (read.drop (i + terminator.length)) := by
  rw [frontAfter, ← declared, if_pos (Nat.le_of_eq whole.symm),
    List.take_of_length_le (Nat.le_of_eq whole)]

/-- **A read brings the reader on** by the octets that it takes. -/
theorem holds_feed {stage : Stage} {octets : Bytes} (holds : stage.Holds terms read)
    (some_ : octets ≠ []) (room : octets.length ≤ stage.room terms) :
    (feed terms stage octets).Holds terms (read ++ octets) := by
  unfold feed
  rw [List.isEmpty_eq_false_iff.mpr some_, if_neg Bool.false_ne_true]
  cases stage with
  | line buffer =>
    obtain ⟨rfl, short, -⟩ := holds
    rw [Stage.room] at room
    exact holds_onLine (by rw [List.length_append]; omega)
  | block status buffer =>
    obtain ⟨rfl, short, told, -⟩ := holds
    rw [Stage.room] at room
    exact holds_onBlock (by rw [List.length_append]; omega) (statusOf?_append octets told)
  | body answer buffer pieces missing =>
    obtain ⟨i, ends, told, declared, left, length, kept⟩ := holds
    have most : octets.length ≤ missing := by
      unfold Stage.room at room
      dsimp only at room
      split at room
      · exact room
      · exact Nat.le_trans room (Nat.min_le_left _ _)
    have within : i + terminator.length ≤ (read.take terms.capacity).length :=
      Bytes.find?_add_le ends
    rw [List.length_take] at within
    have within : i + terminator.length ≤ read.length := by omega
    have ends' : Header.blockEnd? ((read ++ octets).take terms.capacity) = some i := by
      rw [List.take_append]
      exact Bytes.find?_append _ ends
    have told' : statusOf? ((read ++ octets).take terms.capacity) = some answer.status := by
      rw [List.take_append]
      exact statusOf?_append _ told
    have declared' : answer.length = (Header.contentLength? ((read ++ octets).take i)).getD 0 := by
      rw [List.take_append_of_le_length (Nat.le_of_add_right_le within)]
      exact declared
    have tail : (read ++ octets).drop (i + terminator.length)
        = read.drop (i + terminator.length) ++ octets := List.drop_append_of_le_length within
    have kept' : terms.sink = .collect →
        (if terms.sink = .collect then octets :: pieces else pieces).reverse.flatten
          = (read ++ octets).drop (i + terminator.length) := by
      intro collect
      rw [if_pos collect, tail, ← kept collect]
      simp
    dsimp only
    rw [onBody]
    split
    · next whole =>
      refine ⟨_, ?_, kept'⟩
      rw [front_of_block told' ends']
      refine frontAfter_of_length declared' ?_
      rw [tail, List.length_append, List.length_drop]
      omega
    · next more =>
      refine ⟨i, ends', told', declared', by omega, ?_, kept'⟩
      rw [List.length_append]
      omega

theorem room_pos_of_holds {stage : Stage} (scratch : ∀ n, terms.sink = .discard n → 0 < n)
    (holds : stage.Holds terms read) : 0 < stage.room terms := by
  cases stage with
  | line buffer =>
    obtain ⟨rfl, short, -⟩ := holds
    rw [Stage.room]
    omega
  | block status buffer =>
    obtain ⟨rfl, short, -⟩ := holds
    rw [Stage.room]
    omega
  | body answer buffer pieces missing =>
    obtain ⟨i, -, -, -, left, -⟩ := holds
    unfold Stage.room
    dsimp only
    split
    · exact left
    · next n sink => exact Nat.lt_min.mpr ⟨left, scratch n sink⟩

theorem front_of_holds {stage : Stage} (holds : stage.Holds terms read) :
    front terms.capacity read = .unfinished := by
  cases stage with
  | line buffer =>
    obtain ⟨rfl, short, found⟩ := holds
    have whole : buffer.take terms.capacity = buffer :=
      List.take_of_length_le (Nat.le_of_lt short)
    rw [front_of_no_line (whole.symm ▸ found), if_neg (Nat.not_le_of_lt short)]
  | block status buffer =>
    obtain ⟨rfl, short, told, ends⟩ := holds
    have whole : buffer.take terms.capacity = buffer :=
      List.take_of_length_le (Nat.le_of_lt short)
    rw [front_of_no_block (whole.symm ▸ told) (whole.symm ▸ ends),
      if_neg (Nat.not_le_of_lt short)]
  | body answer buffer pieces missing =>
    obtain ⟨i, ends, told, declared, left, length, -⟩ := holds
    have within := Bytes.find?_add_le ends
    rw [List.length_take] at within
    rw [front_of_block told ends, frontAfter, ← declared]
    refine if_neg ?_
    rw [List.length_drop]
    omega

theorem holds_start (terms : Terms) : (start terms).Holds terms [] :=
  holds_onLine (Nat.zero_le _)

theorem State.Holds.append_of_complete {response : Complete} (more : Bytes)
    (holds : (State.complete response).Holds terms read) :
    (State.complete response).Holds terms (read ++ more) := by
  obtain ⟨body, here, same⟩ := holds
  exact ⟨body, by rw [front_append more (by simp [here]), here], same⟩

theorem State.Holds.append_of_failed {fault : Transport.Fault} (more : Bytes)
    (holds : (State.failed fault).Holds terms read) :
    (State.failed fault).Holds terms (read ++ more) := by
  have here : front terms.capacity read = .failed fault := holds
  exact (front_append more (by simp [here])).trans here

/-- **However the octets arrive**, the reader comes to what stands at their front. -/
theorem holds_absorb {state : State} {inbox : Bytes}
    (scratch : ∀ n, terms.sink = .discard n → 0 < n) (holds : state.Holds terms read) :
    (absorb terms state inbox).1.Holds terms (read ++ inbox) := by
  fun_induction absorb terms state inbox generalizing read with
  | case1 inbox stage room =>
    rename_i stop
    have pos : room ≠ 0 := Nat.ne_of_gt (room_pos_of_holds scratch holds)
    rwa [stop.resolve_left pos, List.append_nil]
  | case2 inbox stage room go =>
    rename_i ih
    have took : inbox.take room ≠ [] := fun none_ ↦ go (List.take_eq_nil_iff.mp none_)
    have rest := ih (holds_feed holds took (List.length_take_le _ _))
    rwa [List.append_assoc, List.take_append_drop] at rest
  | case3 inbox state settled =>
    cases state with
    | reading stage => exact absurd rfl (settled stage)
    | complete response => exact holds.append_of_complete inbox
    | failed fault => exact holds.append_of_failed inbox

end PaymentRelay.Exchange
