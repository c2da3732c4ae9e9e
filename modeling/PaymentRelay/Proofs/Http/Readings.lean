import PaymentRelay.Proofs.Http.Front

/-!
# A response is read as it stands, not as it arrives

A stream is cut into reads by the network, and the buffers of a reading have been used before.
Neither makes a difference to what is read. `verdict` says what a reading comes to of the octets
alone: the response that stands at their front, the fault of a head that is none, or the fault of
octets that end too early. A reader is at every moment at what stands at the front of the octets
that it has read; so when nothing is left to be read, it has come to the verdict of them all.

Whether a body is kept or thrown away is no matter either, apart from the wording of one fault. But
a reader that throws a body away must have room to read it into, since a read without room looks
like the end of the stream.
-/

namespace PaymentRelay.Exchange

open Header (terminator)

/-- What a reading comes to, of the octets of a stream alone. -/
def verdict (terms : Terms) (octets : Bytes) : Except Transport.Fault (Answer × Bytes) :=
  match front terms.capacity octets with
  | .response answer body => .ok (answer, body)
  | .failed fault => .error fault
  | .unfinished =>
    .error (if (Header.blockEnd? (octets.take terms.capacity)).isSome then terms.sink.ended
      else .endOfStream)

/-- A reading that is over has come to the verdict. -/
def State.Tells (terms : Terms) (octets : Bytes) : State → Prop
  | .reading _ => False
  | .complete response => ∃ body, verdict terms octets = .ok (response.answer, body) ∧
      (terms.sink = .collect → response.body = body)
  | .failed fault => verdict terms octets = .error fault

/-- What a reading tells its caller of the head, or of what kind the fault is. -/
def gist {β : Type} (result : Except Transport.Fault (Answer × β)) :
    Except Transport.Fault.Kind Answer :=
  (result.map Prod.fst).mapError Transport.Fault.kind

@[simp] theorem gist_ok {β : Type} (read : Answer × β) : gist (.ok read) = .ok read.1 := rfl

@[simp] theorem gist_error {β : Type} (fault : Transport.Fault) :
    gist (.error fault : Except Transport.Fault (Answer × β)) = .error fault.kind := rfl

theorem gist_map {β γ : Type} (result : Except Transport.Fault (Answer × β)) (f : Answer × β → γ) :
    gist (result.map fun read ↦ (read.1, f read)) = gist result := by
  cases result <;> rfl

variable {terms : Terms} {read : Bytes}

theorem verdict_of_response {answer : Answer} {body : Bytes}
    (here : front terms.capacity read = .response answer body) :
    verdict terms read = .ok (answer, body) := by
  rw [verdict, here]

theorem verdict_of_failed {fault : Transport.Fault}
    (here : front terms.capacity read = .failed fault) : verdict terms read = .error fault := by
  rw [verdict, here]

theorem blockEnd?_eq_none_of_no_line (found : read.findIdx? (· == Octet.lf) = none) :
    Header.blockEnd? read = none := by
  refine Option.eq_none_iff_forall_ne_some.mpr fun i ends ↦ ?_
  have short := length_le_of_no_line ends List.prefix_rfl found
  have within : i + terminator.length ≤ read.length := Bytes.find?_add_le ends
  have four : terminator.length = 4 := rfl
  omega

theorem verdict_of_reading {stage : Stage} (holds : stage.Holds terms read) :
    verdict terms read = .error (stage.ended terms) := by
  rw [verdict, front_of_holds holds]
  refine congrArg Except.error ?_
  cases stage with
  | line buffer =>
    obtain ⟨rfl, short, found⟩ := holds
    have whole : buffer.take terms.capacity = buffer := List.take_of_length_le (Nat.le_of_lt short)
    rw [whole, blockEnd?_eq_none_of_no_line found]
    rfl
  | block status buffer =>
    obtain ⟨rfl, short, -, ends⟩ := holds
    have whole : buffer.take terms.capacity = buffer := List.take_of_length_le (Nat.le_of_lt short)
    rw [whole, ends]
    rfl
  | body answer buffer pieces missing =>
    obtain ⟨i, ends, -⟩ := holds
    rw [ends]
    rfl

/-- **A reading comes to the verdict** of what it has read and what is left to be read. -/
theorem tells_readFrom {state : State} {stream : Reads}
    (scratch : ∀ n, terms.sink = .discard n → 0 < n) (holds : state.Holds terms read) :
    (readFrom terms state stream).1.Tells terms (read ++ stream.flat) := by
  fun_induction readFrom terms state stream generalizing read with
  | case1 stream response =>
    obtain ⟨body, here, same⟩ := holds.append_of_complete stream.flat
    exact ⟨body, verdict_of_response here, same⟩
  | case2 stream fault => exact verdict_of_failed (holds.append_of_failed stream.flat)
  | case3 stream stage rest ended =>
    -- there was room, so it is the end of the stream
    have none_ : stream.flat = [] :=
      Reads.flat_eq_nil_of_read (room_pos_of_holds scratch holds) (congrArg Prod.fst ended)
    rw [none_, List.append_nil]
    exact verdict_of_reading holds
  | case4 stream stage b bs rest took ih =>
    have within := Reads.length_read_le (stage.room terms) stream
    have cut := Reads.read_append_flat (stage.room terms) stream
    rw [took] at within cut
    have more := ih (holds_feed holds (List.cons_ne_nil b bs) within)
    rwa [List.append_assoc, cut] at more

/-! ## What the verdict is -/

/-- A response is read exactly if a whole one stands at the front. -/
theorem verdict_eq_ok_iff {answer : Answer} {body : Bytes} :
    verdict terms read = .ok (answer, body) ↔
      Whole terms.capacity read answer.status body ∧ answer.length = body.length := by
  constructor
  · intro told
    have here : front terms.capacity read = .response answer body := by
      cases front_ : front terms.capacity read <;> simp_all [verdict]
    have whole := whole_of_front here
    have again := front_of_whole whole
    rw [here] at again
    cases answer
    cases again
    exact ⟨whole, rfl⟩
  · rintro ⟨whole, length⟩
    rw [verdict_of_response (front_of_whole whole), ← length]

/-- The octets hold no response head, whatever may come after them: the first line is no status
line, or it does not end in the octets that there is room for, or the head does not. -/
def Headless (capacity : Nat) (octets : Bytes) : Prop :=
  (∃ i, (octets.take capacity).findIdx? (· == Octet.lf) = some i ∧
      Status.ofLine? (octets.take i) = none) ∨
    capacity ≤ octets.length ∧ ((octets.take capacity).findIdx? (· == Octet.lf) = none ∨
      Header.blockEnd? (octets.take capacity) = none)

theorem take_line {capacity i : Nat}
    (found : (read.take capacity).findIdx? (· == Octet.lf) = some i) :
    (read.take capacity).take i = read.take i := by
  have within := lt_length_of_findIdx? found
  rw [List.length_take] at within
  rw [List.take_take, Nat.min_eq_left (by omega)]

theorem kind_ended (sink : Sink) : sink.ended.kind = .unexpectedEnd := by
  cases sink <;> rfl

theorem gist_of_unfinished (here : front terms.capacity read = .unfinished) :
    gist (verdict terms read) = .error .unexpectedEnd := by
  rw [verdict, here]
  refine congrArg Except.error ?_
  split
  · exact kind_ended terms.sink
  · rfl

/-- Where the head has not ended, it depends on how much there is. -/
theorem gist_of_more
    (here : front terms.capacity read
      = if terms.capacity ≤ read.length then .failed .oversizeHead else .unfinished) :
    gist (verdict terms read) = .error .invalidData ↔ terms.capacity ≤ read.length := by
  split at here
  · next full =>
    rw [verdict_of_failed here]
    exact iff_of_true rfl full
  · next room =>
    rw [gist_of_unfinished here]
    exact iff_of_false (by simp) room

/-- **What is read is no response** exactly if there is no head. -/
theorem gist_eq_invalidData_iff :
    gist (verdict terms read) = .error .invalidData ↔ Headless terms.capacity read := by
  cases found : (read.take terms.capacity).findIdx? (· == Octet.lf) with
  | none =>
    rw [gist_of_more (front_of_no_line found)]
    simp [Headless, found]
  | some i =>
    have first := take_line found
    cases line : Status.ofLine? (read.take i) with
    | none =>
      rw [verdict_of_failed (front_of_no_status found (first.symm ▸ line))]
      exact iff_of_true rfl (Or.inl ⟨i, found, line⟩)
    | some status =>
      have told : statusOf? (read.take terms.capacity) = some status := by
        rw [statusOf?, found, Option.bind_some, first, line]
      cases ends : Header.blockEnd? (read.take terms.capacity) with
      | none =>
        rw [gist_of_more (front_of_no_block told ends)]
        simp [Headless, found, line, ends]
      | some j =>
        have whole : ¬ Headless terms.capacity read := by
          simp [Headless, found, line, ends]
        refine iff_of_false ?_ whole
        have here := front_of_block told ends
        rw [frontAfter] at here
        split at here
        · rw [verdict_of_response here]
          simp
        · rw [gist_of_unfinished here]
          simp

theorem kind_of_failed {capacity : Nat} {fault : Transport.Fault}
    (here : front capacity read = .failed fault) : fault.kind = .invalidData := by
  unfold front at here
  dsimp only at here
  split at here
  · split at here <;> cases here
    rfl
  split at here
  · cases here
    rfl
  split at here
  · split at here <;> cases here
    rfl
  rw [frontAfter] at here
  split at here <;> cases here

/-- Where there is no whole response, and there might be one, the octets end too early. -/
theorem gist_eq_unexpectedEnd_iff :
    gist (verdict terms read) = .error .unexpectedEnd ↔ ¬ Headless terms.capacity read ∧
      ∀ status body, ¬ Whole terms.capacity read status body := by
  cases here : front terms.capacity read with
  | response answer body =>
    have whole := whole_of_front here
    rw [verdict_of_response here]
    refine iff_of_false (by simp) ?_
    rintro ⟨-, none_⟩
    exact none_ _ _ whole
  | failed fault =>
    have gist_ : gist (verdict terms read) = .error .invalidData := by
      rw [verdict_of_failed here, gist_error, kind_of_failed here]
    refine iff_of_false (by simp [gist_]) ?_
    rintro ⟨some_, -⟩
    exact some_ (gist_eq_invalidData_iff.mp gist_)
  | unfinished =>
    have gist_ := gist_of_unfinished here
    refine iff_of_true gist_ ⟨?_, ?_⟩
    · rw [← gist_eq_invalidData_iff, gist_]
      simp
    · intro status body whole
      have told := front_of_whole whole
      rw [here] at told
      cases told

/-! ## Buffers that have been used before -/

/-- **What is read into used buffers** is what the octets tell. -/
theorem readInto_eq (scratch : ∀ n, terms.sink = .discard n → 0 < n) (buffers : Buffers)
    (stream : Reads) :
    (readInto terms buffers stream).1.map (fun read ↦ (read.1, read.2.body)) =
      (verdict terms stream.flat).map fun told ↦
        (told.1, match terms.sink with
          | .collect => told.2
          | .discard _ => buffers.body) := by
  have tells : (readFrom terms (start terms) stream).1.Tells terms ([] ++ stream.flat) :=
    tells_readFrom scratch (holds_start terms)
  rw [List.nil_append, start] at tells
  rw [readInto, Buffers.clearHead]
  dsimp only
  split
  · next response rest ended =>
    rw [ended] at tells
    obtain ⟨body, told, kept⟩ := tells
    rw [told]
    refine congrArg (fun body ↦ Except.ok (response.answer, body)) ?_
    cases sink : terms.sink with
    | collect => exact kept sink
    | discard n => rfl
  · next fault rest ended =>
    rw [ended] at tells
    have told : verdict terms stream.flat = .error fault := tells
    rw [told]
    rfl
  · next stage rest ended =>
    rw [ended] at tells
    exact tells.elim

/-- What becomes of the body makes a difference to the wording of a fault at most. -/
theorem gist_verdict (capacity : Nat) (sink other : Sink) (octets : Bytes) :
    gist (verdict ⟨capacity, sink⟩ octets) = gist (verdict ⟨capacity, other⟩ octets) := by
  cases here : front capacity octets with
  | response answer body => rw [verdict, verdict, here]
  | failed fault => rw [verdict, verdict, here]
  | unfinished => rw [gist_of_unfinished here, gist_of_unfinished here]

theorem gist_readInto (scratch : ∀ n, terms.sink = .discard n → 0 < n) (buffers : Buffers)
    (stream : Reads) :
    gist (readInto terms buffers stream).1 = gist (verdict terms stream.flat) := by
  have same := congrArg gist (readInto_eq scratch buffers stream)
  rwa [gist_map, gist_map] at same

/-- **A response is read as it stands.** Whatever the buffers have held before, however the octets
are cut into reads, and whether the body is kept or thrown away, as long as there is room to read it
into,

* a reading comes to the verdict of the octets: it tells the status and the length, and keeps the
  body or leaves its buffer alone, or it fails, with the same fault;
* two readings of the same octets tell the same of the head, or fail with faults of one kind, even
  if one keeps the body and the other does not;
* a response is read if a whole one stands at the front of the octets; the data are invalid if no
  head stands there; and otherwise the octets end too early. -/
theorem reading_depends_on_octets_alone (terms : Terms) (buffers : Buffers) (stream : Reads)
    (scratch : ∀ n, terms.sink = .discard n → 0 < n) :
    (readInto terms buffers stream).1.map (fun read ↦ (read.1, read.2.body)) =
        (verdict terms stream.flat).map (fun told ↦
          (told.1, match terms.sink with
            | .collect => told.2
            | .discard _ => buffers.body)) ∧
      (∀ (sink : Sink) (used : Buffers) (cut : Reads), (∀ n, sink = .discard n → 0 < n) →
        cut.flat = stream.flat →
          gist (readInto ⟨terms.capacity, sink⟩ used cut).1
            = gist (readInto terms buffers stream).1) ∧
      (∀ answer body, verdict terms stream.flat = .ok (answer, body) ↔
        Whole terms.capacity stream.flat answer.status body ∧ answer.length = body.length) ∧
      (gist (verdict terms stream.flat) = .error .invalidData ↔
        Headless terms.capacity stream.flat) ∧
      (gist (verdict terms stream.flat) = .error .unexpectedEnd ↔
        ¬ Headless terms.capacity stream.flat ∧
          ∀ status body, ¬ Whole terms.capacity stream.flat status body) := by
  refine ⟨readInto_eq scratch buffers stream, ?_, fun _ _ ↦ verdict_eq_ok_iff,
    gist_eq_invalidData_iff, gist_eq_unexpectedEnd_iff⟩
  intro sink used cut room same
  rw [gist_readInto room, gist_readInto scratch, same]
  exact gist_verdict terms.capacity sink terms.sink stream.flat

/-- A response in two reads, into buffers that hold something else; and the same without the last
octet of its body, which is missed by a reading that keeps the body and by one that does not. -/
theorem reading_of_two_reads :
    let head := utf8 "HTTP/1.1 200 OK\x0d\x0aContent-Length: 2\x0d\x0a\x0d\x0a"
    let used : Buffers := ⟨utf8 "stale", utf8 "stale"⟩
    let read (sink : Sink) (stream : Reads) :=
      (readInto ⟨64, sink⟩ used stream).1.map fun read ↦ (read.1, read.2.body)
    read .collect [head ++ utf8 "o", utf8 "k"] = .ok (⟨200, 2⟩, utf8 "ok") ∧
      read .collect [head, utf8 "o"] = .error .endOfBody ∧
      read (.discard 1) [head ++ utf8 "o"] = .error .endOfStream := by
  intro head used read
  have keep (stream : Reads) := reading_depends_on_octets_alone ⟨64, .collect⟩ used stream
    (fun n other ↦ by cases other)
  have throw (stream : Reads) := reading_depends_on_octets_alone ⟨64, .discard 1⟩ used stream
    (fun n same ↦ by cases same; decide)
  refine ⟨(keep _).1.trans ?_, (keep _).1.trans ?_, (throw _).1.trans ?_⟩ <;> decide +kernel

end PaymentRelay.Exchange
