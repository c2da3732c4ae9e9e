import PaymentRelay.Proofs.Edge.Framing

/-!
# What becomes of a body that nobody reads

A request may declare a body. A payment's body is taken; any other body would be read as the next
request, unless the connection is closed. A request for something that is not there is answered with
the connection closed if it declares a body. A request for a summary is not, and neither is a
request for something that is not there if the length that it declares is illegible: then the
connection stays open, and the next request is what the body says.

These two are the only cases. Apart from them a declared body is skipped octet by octet, or nothing
is read any more.
-/

namespace PaymentRelay

/-- The value of the first `Content-Length` line of a header block. -/
def Header.lengthValue? (block : Bytes) : Option Bytes :=
  (Header.lines block).findSome? (Header.value? Header.contentLengthName)

/-- A header block declares a body: it has a `Content-Length` line, and the first one does not say
zero. -/
def Header.DeclaresBody (block : Bytes) : Prop :=
  ∃ value, lengthValue? block = some value ∧ Numeral.read? Numeral.limit64 value.trim ≠ some 0

theorem Header.contentLength?_ne_zero {block : Bytes} (h : DeclaresBody block) :
    contentLength? block ≠ some 0 := by
  obtain ⟨value, there, not_zero⟩ := h
  rw [lengthValue?] at there
  rw [contentLength?, there]
  exact not_zero

theorem RequestHead.read?_contentLength {block : Bytes} {head : RequestHead}
    (h : RequestHead.read? block = some head) :
    head.contentLength = Header.contentLength? block := by
  unfold RequestHead.read? at h
  split at h
  · split at h
    · split at h
      · cases h
        rfl
      · cases h
    · cases h
  · cases h

namespace Edge

open Session (Answers serve)

variable {capacity : Nat} {answers : Answers} {asked : Nat}

/-! ## One request -/

/-- Exactly the declared body is skipped before the next request, or there is no next request. -/
def Dealt.SkipsBody (head : RequestHead) (tail : Bytes) (dealt : Dealt) : Prop :=
  dealt.next = none ∨
    ∃ length, head.contentLength = some length ∧ length ≤ tail.length ∧
      dealt.next = some (tail.drop length)

/-- The connection stays open after a request whose body nobody reads: a summary was asked for and
is there, or nothing is there and the length is illegible. -/
def LeavesBody (answers : Answers) (asked : Nat) (head : RequestHead) : Prop :=
  head.close = false ∧
    match Route.ofHead head with
    | .ingest => False
    | .summary _ _ => ∃ json, answers asked = .ok json
    | .notFound => head.contentLength = none

theorem not_skips_of_next {head : RequestHead} {tail : Bytes} {dealt : Dealt}
    (declared : head.contentLength ≠ some 0) (next : dealt.next = some tail) :
    ¬ dealt.SkipsBody head tail := by
  rintro (none | ⟨length, told, within, skipped⟩)
  · rw [next] at none
    cases none
  · rw [next] at skipped
    have same : tail.length = tail.length - length := by
      rw [← List.length_drop, ← Option.some.inj skipped]
    have zero : length = 0 := by omega
    exact declared (zero ▸ told)

/-- The body of a payment is taken, or it is not there and nothing follows. -/
theorem skipsBody_ingest {head : RequestHead} (route : Route.ofHead head = .ingest) (tail : Bytes) :
    (deal answers asked head tail).SkipsBody head tail := by
  rw [deal, route]
  dsimp only
  split
  · exact Or.inl rfl
  · next length told =>
    split
    · exact Or.inl rfl
    split
    · exact Or.inl rfl
    · next whole =>
      cases close : head.close
      · exact Or.inr ⟨length, told, Nat.le_of_not_lt whole, rfl⟩
      · exact Or.inl rfl

/-- After a summary the connection is open if there is one and nobody asked to close it. -/
theorem next_deal_summary (answers : Answers) (asked : Nat) {head : RequestHead} {scope : Scope}
    {query : Option String} (route : Route.ofHead head = .summary scope query) (tail : Bytes) :
    ((deal answers asked head tail).next = some tail ∧ head.close = false ∧
        ∃ json, answers asked = .ok json) ∨
      ((deal answers asked head tail).next = none ∧
        ¬ (head.close = false ∧ ∃ json, answers asked = .ok json)) := by
  rw [deal, route]
  dsimp only
  cases answers asked with
  | error fault =>
    refine Or.inr ⟨rfl, ?_⟩
    rintro ⟨-, json, ok⟩
    cases ok
  | ok json =>
    cases close : head.close
    · exact Or.inl ⟨rfl, rfl, json, rfl⟩
    · refine Or.inr ⟨rfl, ?_⟩
      rintro ⟨open_, -⟩
      cases open_

/-- After a request for what is not there the connection is open if no length above zero is legible
and nobody asked to close it. -/
theorem next_deal_notFound (answers : Answers) (asked : Nat) {head : RequestHead}
    (route : Route.ofHead head = .notFound) (declared : head.contentLength ≠ some 0)
    (tail : Bytes) :
    ((deal answers asked head tail).next = some tail ∧ head.close = false ∧
        head.contentLength = none) ∨
      ((deal answers asked head tail).next = none ∧
        ¬ (head.close = false ∧ head.contentLength = none)) := by
  have next : (deal answers asked head tail).next =
      if !head.close && !head.contentLength.any (0 < ·) then some tail else none := by
    rw [deal, route]
  rw [next]
  cases told : head.contentLength with
  | none =>
    cases close : head.close
    · exact Or.inl ⟨rfl, rfl, rfl⟩
    · refine Or.inr ⟨rfl, ?_⟩
      rintro ⟨open_, -⟩
      cases open_
  | some length =>
    have pos : 0 < length := Nat.pos_of_ne_zero fun zero ↦ declared (zero ▸ told)
    -- the only branch that asks whether there is a body, and so closes
    rw [Option.any_some, decide_eq_true pos, Bool.not_true, Bool.and_false]
    refine Or.inr ⟨rfl, ?_⟩
    rintro ⟨-, illegible⟩
    cases illegible

/-- **A request skips the body that it declares unless it leaves it**, whatever it is for. -/
theorem skipsBody_iff {head : RequestHead} (declared : head.contentLength ≠ some 0) (tail : Bytes) :
    (deal answers asked head tail).SkipsBody head tail ↔ ¬ LeavesBody answers asked head := by
  rw [LeavesBody]
  cases route : Route.ofHead head with
  | ingest => exact iff_of_true (skipsBody_ingest route tail) fun kept ↦ kept.2
  | summary scope query =>
    rcases next_deal_summary answers asked route tail with ⟨next, kept⟩ | ⟨next, not_kept⟩
    · exact iff_of_false (not_skips_of_next declared next) fun h ↦ h kept
    · exact iff_of_true (Or.inl next) not_kept
  | notFound =>
    rcases next_deal_notFound answers asked route declared tail with
      ⟨next, kept⟩ | ⟨next, not_kept⟩
    · exact iff_of_false (not_skips_of_next declared next) fun h ↦ h kept
    · exact iff_of_true (Or.inl next) not_kept

/-! ## A connection, request by request -/

/-- A client who sends this stream has its next request read from the octets `rest`, `before` having
been done and so many summaries having been asked for. -/
inductive Reached (capacity : Nat) (answers : Answers) (stream : Bytes) :
    List Effect → Nat → Bytes → Prop where
  /-- The first request is at the beginning. -/
  | first : Reached capacity answers stream [] 0 stream
  /-- A request has been dealt with that leaves the connection open. -/
  | next {before : List Effect} {asked : Nat} {rest tail next : Bytes} {head : RequestHead}
      (reached : Reached capacity answers stream before asked rest)
      (here : front capacity rest = .request head tail)
      (more : (deal answers asked head tail).next = some next) :
      Reached capacity answers stream
        (before ++ .begin head :: (deal answers asked head tail).effects)
        (deal answers asked head tail).asked next

theorem transcript_of_reached {stream rest : Bytes} {before : List Effect}
    (h : Reached capacity answers stream before asked rest) :
    transcript capacity answers 0 stream = before ++ transcript capacity answers asked rest := by
  induction h with
  | first => rfl
  | next reached here more ih =>
    rw [ih, transcript_of_request here, Dealt.onward, more, List.append_assoc]

theorem blockEnd?_of_front {stream tail : Bytes} {head : RequestHead}
    (h : front capacity stream = .request head tail) :
    ∃ i, Header.blockEnd? stream = some i ∧ RequestHead.read? (stream.take i) = some head := by
  rw [front_eq] at h
  split at h
  · next i found =>
    split at h
    · split at h
      · next read =>
        cases h
        exact ⟨i, found, read⟩
      · cases h
    · cases h
  · split at h <;> cases h

/-- **What becomes of a declared body.** On whatever connection and after whatever requests, when a
request has been read whose header block declares a body, it is dealt with and then the connection
goes on after exactly that body or not at all, unless the request leaves its body: it may be
followed by others, and it has got a summary, or has found nothing and declared an illegible
length. -/
theorem declared_body_skipped_iff {terms : Terms} (pos : 0 < terms.bodyChunk)
    (stream : Reads) {before : List Effect} {rest tail : Bytes} {head : RequestHead} {i : Nat}
    (reached : Reached terms.headCapacity answers stream.flat before asked rest)
    (here : front terms.headCapacity rest = .request head tail)
    (ends : Header.blockEnd? rest = some i) (declared : Header.DeclaresBody (rest.take i)) :
    let dealt := deal answers asked head tail
    serve terms answers stream
        = before ++ .begin head :: dealt.effects ++ dealt.onward terms.headCapacity answers ∧
      (dealt.SkipsBody head tail ↔ ¬ LeavesBody answers asked head) := by
  refine ⟨?_, skipsBody_iff ?_ tail⟩
  · rw [Session.serve_eq_transcript answers pos stream, transcript_of_reached reached,
      transcript_of_request here, List.append_assoc]
  · obtain ⟨j, found, read⟩ := blockEnd?_of_front here
    rw [ends] at found
    cases found
    rw [RequestHead.read?_contentLength read]
    exact Header.contentLength?_ne_zero declared

def posted : Bytes := utf8 "POST /payments HTTP/1.1\r\nContent-Length: 2\r\n\r\n\x7b\x7d"

/-- The header block of a request for a summary that declares a body. -/
def wrapper : Bytes := utf8 "GET /payments-summary-lock HTTP/1.1\r\nContent-Length: 48"

/-- What is known of that request. -/
def wrapperHead : RequestHead := ⟨"GET", "/payments-summary-lock", some 48, false⟩

/-- That request, with the payment as its body. -/
def wrapped : Bytes := wrapper ++ Header.terminator ++ posted

theorem front_wrapped : front 8192 wrapped = .request wrapperHead posted := by decide +kernel

theorem wrapped_declared :
    Header.blockEnd? wrapped = some wrapper.length ∧
      Header.DeclaresBody (wrapped.take wrapper.length) := by
  constructor
  · decide +kernel
  · exact ⟨utf8 " 48", by decide +kernel, by decide +kernel⟩

/-- That request, the first on its connection. -/
theorem wrapped_body_kept_or_left :
    let answers : Answers := fun _ ↦ .ok []
    let dealt := deal answers 0 wrapperHead posted
    serve ⟨8192, 65536⟩ answers [wrapped]
        = [] ++ .begin wrapperHead :: dealt.effects ++ dealt.onward 8192 answers ∧
      (dealt.SkipsBody wrapperHead posted ↔ ¬ LeavesBody answers 0 wrapperHead) := by
  have reached : Reached 8192 (fun _ ↦ .ok []) (Reads.flat [wrapped]) [] 0 wrapped := by
    rw [Reads.flat, List.flatten_singleton]
    exact .first
  exact declared_body_skipped_iff (by decide) [wrapped] reached front_wrapped wrapped_declared.1
    wrapped_declared.2

/-- The body that a request for a summary declares is not skipped but read as the next request, and
the payment that it says is taken. -/
theorem wrapped_body_ingested :
    Header.DeclaresBody (wrapped.take wrapper.length) ∧
      ¬ (deal (fun _ ↦ .ok []) 0 wrapperHead posted).SkipsBody wrapperHead posted ∧
      .ingest (utf8 "\x7b\x7d") "\x7b\x7d" ∈ serve ⟨8192, 65536⟩ (fun _ ↦ .ok []) [wrapped] := by
  have next : (deal (fun _ ↦ .ok []) 0 wrapperHead posted).next = some posted := by decide +kernel
  refine ⟨wrapped_declared.2, not_skips_of_next (by decide) next, ?_⟩
  rw [Session.serve_eq_transcript _ (by decide), Reads.flat, List.flatten_singleton,
    transcript_of_request front_wrapped, Dealt.onward, next]
  refine List.mem_append_right _ ?_
  have front_posted : front 8192 posted = .request ⟨"POST", "/payments", some 2, false⟩
      (utf8 "\x7b\x7d") := by decide +kernel
  dsimp only
  rw [transcript_of_request front_posted]
  refine List.mem_append_left _ (List.mem_cons_of_mem _ ?_)
  decide +kernel

end Edge

end PaymentRelay
