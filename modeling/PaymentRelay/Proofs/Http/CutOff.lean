import PaymentRelay.Proofs.Http.Readings

/-!
# A response that is cut off

If a reading needs all the octets of a response, then of fewer of them it makes nothing: less than a
whole response stands at the front of them, wherever they are cut off, in the first line, within a
line end, among the digits of the length or in the body. So every reading of them that comes to the
end of the stream reports that it ended too early, and none takes them for a shorter response.

What becomes of the body makes no difference here, and there may even be no room to read it into:
such a reading takes the first read of the body for the end of the stream, which it reports in the
same way.
-/

namespace PaymentRelay.Exchange

open Header (terminator)

/-- Some reading of these octets succeeds, into whatever buffers and however they are cut, and it
needs all of them: they are a head and as many octets of a body as it reports. -/
def TakesAll (terms : Terms) (octets : Bytes) : Prop :=
  ∃ (buffers used : Buffers) (stream : Reads) (answer : Answer) (k : Nat), stream.flat = octets ∧
    (readInto terms buffers stream).1 = .ok (answer, used) ∧ Header.blockEnd? octets = some k ∧
    octets.length = k + terminator.length + answer.length

variable {terms : Terms} {read octets response : Bytes}

theorem kind_stage_ended (terms : Terms) (stage : Stage) :
    (stage.ended terms).kind = .unexpectedEnd := by
  cases stage with
  | line buffer => rfl
  | block status buffer => rfl
  | body answer buffer pieces missing => exact kind_ended terms.sink

/-- **A reading ends** with what stands at the front of all there is, or it reports that the stream
ended too early. -/
theorem ends_readFrom {state : State} {stream : Reads} (holds : state.Holds terms read) :
    (∃ result, (readFrom terms state stream).1 = .complete result ∧
        (State.complete result).Holds terms (read ++ stream.flat)) ∨
      ∃ fault, (readFrom terms state stream).1 = .failed fault ∧
        ((State.failed fault).Holds terms (read ++ stream.flat) ∨ fault.kind = .unexpectedEnd) := by
  fun_induction readFrom terms state stream generalizing read with
  | case1 stream result => exact .inl ⟨result, rfl, holds.append_of_complete stream.flat⟩
  | case2 stream fault => exact .inr ⟨fault, rfl, .inl (holds.append_of_failed stream.flat)⟩
  | case3 stream stage rest ended => exact .inr ⟨_, rfl, .inr (kind_stage_ended terms stage)⟩
  | case4 stream stage b bs rest took ih =>
    have within := Reads.length_read_le (stage.room terms) stream
    have cut := Reads.read_append_flat (stage.room terms) stream
    rw [took] at within cut
    have more := ih (holds_feed holds (List.cons_ne_nil b bs) within)
    rwa [List.append_assoc, cut] at more

theorem ends_readInto (terms : Terms) (buffers : Buffers) (stream : Reads) :
    (∃ answer used body, (readInto terms buffers stream).1 = .ok (answer, used) ∧
        front terms.capacity stream.flat = .response answer body) ∨
      ∃ fault, (readInto terms buffers stream).1 = .error fault ∧
        (front terms.capacity stream.flat = .failed fault ∨ fault.kind = .unexpectedEnd) := by
  have begun : (onLine terms []).Holds terms [] := holds_start terms
  have ends := @ends_readFrom terms [] _ stream begun
  rw [List.nil_append] at ends
  rw [readInto, Buffers.clearHead]
  dsimp only
  rcases ends with ⟨result, ended, body, here, -⟩ | ⟨fault, ended, why⟩
  · split
    · next found =>
      rw [found] at ended
      cases ended
      exact .inl ⟨_, _, body, rfl, here⟩
    · next found =>
      rw [found] at ended
      cases ended
    · next found =>
      rw [found] at ended
      cases ended
  · split
    · next found =>
      rw [found] at ended
      cases ended
    · next found =>
      rw [found] at ended
      cases ended
      exact .inr ⟨fault, rfl, why⟩
    · next found =>
      rw [found] at ended
      cases ended

theorem front_of_readInto {buffers used : Buffers} {stream : Reads} {answer : Answer}
    (ok : (readInto terms buffers stream).1 = .ok (answer, used)) :
    ∃ body, front terms.capacity stream.flat = .response answer body := by
  rcases ends_readInto terms buffers stream with ⟨answer', used', body, ok', here⟩ | ⟨_, failed, -⟩
  · rw [ok] at ok'
    cases ok'
    exact ⟨body, here⟩
  · rw [ok] at failed
    cases failed

theorem readInto_of_unfinished {stream : Reads} (buffers : Buffers)
    (short : front terms.capacity stream.flat = .unfinished) :
    ∃ fault, (readInto terms buffers stream).1 = .error fault ∧ fault.kind = .unexpectedEnd := by
  rcases ends_readInto terms buffers stream with ⟨_, _, body, -, here⟩ | ⟨fault, failed, why⟩
  · rw [short] at here
    cases here
  · refine ⟨fault, failed, why.resolve_left fun here ↦ ?_⟩
    rw [short] at here
    cases here

theorem front_of_prefix {capacity : Nat} (short : front capacity octets = .unfinished)
    (start : read <+: octets) : front capacity read = .unfinished := by
  obtain ⟨more, rfl⟩ := start
  by_contra settled
  rw [front_append more settled] at short
  exact settled short

/-- **Less than a whole response stands at the front** of octets that are cut off. -/
theorem front_of_cut (takes : TakesAll terms response) (start : octets <+: response)
    (cut : octets ≠ response) : front terms.capacity octets = .unfinished := by
  obtain ⟨buffers, used, stream, answer, k, rfl, ok, ends, all⟩ := takes
  obtain ⟨body, whole⟩ := front_of_readInto ok
  have shorter : octets.length < stream.flat.length :=
    Nat.lt_of_le_of_ne start.length_le fun same ↦ cut (start.eq_of_length same)
  obtain ⟨more, joined⟩ := start
  by_contra settled
  -- what stands at the front is not taken back, so it would be the whole response
  have same := front_append more settled
  rw [joined, whole] at same
  obtain ⟨j, ends', -, -, -, tail⟩ := whole_of_front same.symm
  have found : Header.blockEnd? stream.flat = some j := joined ▸ Bytes.find?_append more ends'
  rw [ends] at found
  cases found
  have again := front_of_whole (whole_of_front whole)
  rw [whole] at again
  injection again with length
  have enough := tail.length_le
  have within : k + terminator.length ≤ octets.length := Bytes.find?_add_le ends'
  rw [List.length_drop] at enough
  rw [length] at all
  dsimp only at all
  omega

/-- **What is cut off is never read**: every reading of it reports that the stream ended too early.
-/
theorem unexpectedEnd_of_cut (takes : TakesAll terms response) (start : octets <+: response)
    (cut : octets ≠ response) (sink : Sink) (buffers : Buffers) {stream : Reads}
    (flat : stream.flat = octets) :
    ∃ fault, (readInto ⟨terms.capacity, sink⟩ buffers stream).1 = .error fault ∧
      fault.kind = .unexpectedEnd := by
  have none_ : front terms.capacity octets = .unfinished := front_of_cut takes start cut
  have short : front (⟨terms.capacity, sink⟩ : Terms).capacity stream.flat = .unfinished := by
    rw [flat]
    exact none_
  exact readInto_of_unfinished buffers short

end PaymentRelay.Exchange
