import PaymentRelay.Gateway.Summaries
import PaymentRelay.Proofs.Edge.Bodies
import PaymentRelay.Proofs.Http.Responses
import PaymentRelay.Proofs.Peer.SameSummary

/-!
# One response for each request

What a connection does is cut into answered requests, one after the other as they stand in the
stream: what is done for a request, and then its response, which is all that is written for it. A
response that says that the connection is kept is followed by the next request; one that says that
it is closed is the last, and nothing is done for whatever comes after it. A connection that was to
be kept ends without another response only where the stream ends within a head.

Only a payment that has arrived as a whole is handed in, once and before it is answered with status
200. So whoever sees another status, or none, knows that nothing was taken.
-/

namespace PaymentRelay.Edge

open Session (Answers serve)

/-! ## Complete responses -/

/-- A response as it is written is complete: its head ends where its block does and tells the
status, whether the connection is kept, and the length of the body that follows. -/
def Reply.IsComplete (reply : Reply) : Prop :=
  ∃ block, reply.write = block ++ (Header.terminator ++ reply.json.getD []) ∧
    Header.blockEnd? reply.write = some block.length ∧
    Exchange.statusOf? reply.write = some reply.status ∧
    Header.contentLength? block = some (reply.json.getD []).length ∧
    Header.connection? block = some (if reply.keepAlive then utf8 "keep-alive" else utf8 "close")

theorem Reply.isComplete {reply : Reply} (least : 100 ≤ reply.status) (three : reply.status < 1000)
    (small : (reply.json.getD []).length < Numeral.limit64) : reply.IsComplete := by
  have type : ∀ type ∈ reply.json.map fun _ ↦ "application/json", Header.IsLine (utf8 type) := by
    have plain : Header.IsLine (utf8 "application/json") := by decide
    intro type there
    obtain ⟨-, -, rfl⟩ := Option.map_eq_some_iff.mp there
    exact plain
  refine ⟨_, ?_, Response.blockEnd?_head _ type _, Response.statusOf?_head least three _,
    Response.contentLength?_block _ type small, Response.connection?_block _ type⟩
  rw [Reply.write, Response.write, Response.head_eq, List.append_assoc]

theorem isComplete_bare {status : Status} (keepAlive : Bool) (least : 100 ≤ status)
    (three : status < 1000) : (⟨status, keepAlive, none⟩ : Reply).IsComplete :=
  Reply.isComplete least three (show 0 < Numeral.limit64 by decide)

theorem status_fault (fault : RequestFault) : fault.status = 400 ∨ fault.status = 500 := by
  rcases fault with _ | _ | _ | _
  · exact .inl rfl
  all_goals exact .inr rfl

theorem isComplete_fault (fault : RequestFault) :
    (⟨fault.status, false, none⟩ : Reply).IsComplete := by
  rcases status_fault fault with status | status <;> rw [status] <;>
    exact isComplete_bare false (by decide) (by decide)

/-- What can be told of a summary: its text, or a fault with which the client is still there. -/
def Tellable : Except RequestFault Bytes → Prop
  | .ok json => json.length < Numeral.limit64
  | .error fault => fault.isDisconnect = false

theorem tellable_tidings (result : Except PeerFault Summary) :
    Tellable (Gateway.tidings result) := by
  rcases result with fault | s
  · rfl
  · exact Nat.lt_of_le_of_lt s.length_write_le (by decide)

/-! ## Requests -/

/-- The octets are a request with this head and this body. -/
def IsRequest (octets : Bytes) (head : RequestHead) (body : Bytes) : Prop :=
  ∃ block, octets = block ++ (Header.terminator ++ body) ∧
    Header.blockEnd? octets = some block.length ∧ RequestHead.read? block = some head

variable {octets stream body tail rest : Bytes} {head head' : RequestHead} {capacity asked : Nat}
  {answers : Answers}

theorem IsRequest.unique {body' : Bytes} (h : IsRequest octets head body)
    (h' : IsRequest octets head' body') : head = head' ∧ body = body' := by
  obtain ⟨block, cut, ends, read⟩ := h
  obtain ⟨block', cut', ends', read'⟩ := h'
  rw [ends] at ends'
  obtain ⟨rfl, same⟩ := List.append_inj (cut.symm.trans cut') (Option.some.inj ends')
  rw [read] at read'
  exact ⟨Option.some.inj read', List.append_cancel_left same⟩

theorem IsRequest.of_append (h : IsRequest stream head (body ++ rest)) :
    ∃ octets, stream = octets ++ rest ∧ IsRequest octets head body := by
  obtain ⟨block, rfl, ends, read⟩ := h
  have cut : block ++ (Header.terminator ++ (body ++ rest))
      = (block ++ (Header.terminator ++ body)) ++ rest := by simp
  refine ⟨_, cut, block, rfl, ?_, read⟩
  rw [cut] at ends
  refine Bytes.find?_of_append ends ?_
  simp only [List.length_append]
  omega

theorem IsRequest.head_alone (h : IsRequest stream head tail) :
    ∃ octets, stream = octets ++ tail ∧ IsRequest octets head [] := by
  rw [← List.nil_append tail] at h
  exact h.of_append

theorem isRequest_of_front (h : front capacity stream = .request head tail) :
    IsRequest stream head tail := by
  rw [front_eq] at h
  split at h
  · next i found =>
    split at h
    · split at h
      · next read =>
        cases h
        have within : i + Header.terminator.length ≤ stream.length := Bytes.find?_add_le found
        obtain ⟨after, cut⟩ := Bytes.find?_prefix found
        have rest : stream.drop (i + Header.terminator.length) = after := by
          rw [← List.drop_drop, ← cut, List.drop_left]
        have length : (stream.take i).length = i := by
          rw [List.length_take]
          omega
        refine ⟨stream.take i, ?_, ?_, read⟩
        · rw [rest, cut, List.take_append_drop]
        · rw [length]
          exact found
      · cases h
    · cases h
  · split at h <;> cases h

/-! ## Answered requests -/

/-- A request and what has been done for it. -/
structure Answered where
  /-- The octets that belong to it. -/
  request : Bytes
  /-- What is done before the response. -/
  before : List Effect
  reply : Reply

/-- What is done for a request, the response at the end. -/
def Answered.effects (x : Answered) : List Effect := x.before ++ [.respond x.reply]

/-- A body is taken: handed in as a payment, or dropped because it is no text. -/
def Effect.takesBody : Effect → Bool
  | .ingest _ _ => true
  | .discard _ _ => true
  | _ => false

/-- What an effect writes to the client. -/
def Effect.written : Effect → Bytes
  | .respond reply => reply.write
  | _ => []

theorem Effect.written_of_not_isWrite {e : Effect} (h : e.isWrite = false) : e.written = [] := by
  rcases e <;> first | rfl | cases h

/-- The octets of a request are its head and, of a payment, what there is of the body; or no head
could be read, and they are all that was left. -/
def Answered.IsRead (x : Answered) : Prop :=
  (∃ head body, IsRequest x.request head body ∧ x.before.head? = some (.begin head) ∧
      (Route.ofHead head ≠ .ingest → body = [])) ∨
    ∃ cause, x.before = [.report (.bad cause)] ∧ x.reply = ⟨400, false, none⟩

/-- A request is answered as it should be. -/
structure Answered.Proper (x : Answered) : Prop where
  read : x.IsRead
  /-- Nothing is written before the response. -/
  silent : ∀ e ∈ x.before, e.isWrite = false
  /-- The response is complete. -/
  complete : x.reply.IsComplete
  /-- A payment that is answered with status 200 has been handed in, once and with its whole body,
  or has been dropped because the body spells nothing. -/
  payment : ∀ head body, IsRequest x.request head body → Route.ofHead head = .ingest →
    x.reply.status = 200 →
      head.contentLength = some body.length ∧
        ((∃ payload, utf8 payload = body ∧ x.before = [.begin head, .ingest body payload]) ∨
          ∃ fault, Utf8.decode body = .error fault ∧ (∀ payload, utf8 payload ≠ body) ∧
            x.before = [.begin head, .discard body fault])
  /-- A body is taken of nothing else. -/
  taken : ∀ e ∈ x.before, e.takesBody = true → x.reply.status = 200 ∧
    ∃ head body, IsRequest x.request head body ∧ Route.ofHead head = .ingest
  /-- A summary is asked for by a request for it. -/
  asked : ∀ scope query, .ask scope query ∈ x.before →
    ∃ head body, IsRequest x.request head body ∧ Route.ofHead head = .summary scope query

/-- A request that is refused or for which nothing is there: nothing is done for it. -/
theorem proper_of_refused {x : Answered} (read : x.IsRead) (complete : x.reply.IsComplete)
    (refused : x.reply.status ≠ 200)
    (idle : ∀ e ∈ x.before, e.isWrite = false ∧ e.takesBody = false)
    (asked : ∀ scope query, .ask scope query ∈ x.before →
      ∃ head body, IsRequest x.request head body ∧ Route.ofHead head = .summary scope query) :
    x.Proper where
  read := read
  silent e there := (idle e there).1
  complete := complete
  payment _ _ _ _ ok := absurd ok refused
  taken e there takes := by
    rw [(idle e there).2] at takes
    cases takes
  asked := asked

/-- A body is handed in as the payload that it spells, or dropped because it spells none. -/
theorem handIn_cases (body : Bytes) :
    (∃ payload, utf8 payload = body ∧ handIn body = .ingest body payload) ∨
      ∃ fault, Utf8.decode body = .error fault ∧ (∀ payload, utf8 payload ≠ body) ∧
        handIn body = .discard body fault := by
  cases decoded : Utf8.decode body with
  | ok payload =>
    have spelt : utf8 payload = body :=
      Utf8.decode?_eq_some_iff.mp (by rw [Utf8.decode?, decoded]; rfl)
    exact .inl ⟨payload, spelt, by rw [handIn, decoded]⟩
  | error fault =>
    refine .inr ⟨fault, rfl, fun payload spelt ↦ ?_, by rw [handIn, decoded]⟩
    rw [← spelt, Utf8.decode_utf8] at decoded
    cases decoded

theorem refusal_of_present {fault : RequestFault} (present : fault.isDisconnect = false) :
    refusal fault = [.report fault, .respond ⟨fault.status, false, none⟩] := by
  rcases fault with _ | _ | _ | _
  · rfl
  · cases present
  · rfl
  · rfl

/-! ## One request -/

/-- A request that stands at the front of a stream is answered as it should be, and the next one
begins where it ends, unless the response says that the connection is closed. -/
def Dealt.Settles (dealt : Dealt) (head : RequestHead) (stream : Bytes) : Prop :=
  ∃ (x : Answered) (rest : Bytes), .begin head :: dealt.effects = x.effects ∧
    stream = x.request ++ rest ∧ x.Proper ∧
    dealt.next = if x.reply.keepAlive then some rest else none

theorem settles_refused (cause : BadRequest) (request : IsRequest stream head tail)
    (route : Route.ofHead head = .ingest) :
    (⟨refusal (.bad cause), asked, none⟩ : Dealt).Settles head stream := by
  refine ⟨⟨stream, [.begin head, .report (.bad cause)], ⟨400, false, none⟩⟩, [], rfl,
    (List.append_nil _).symm, ?_, rfl⟩
  refine proper_of_refused (.inl ⟨head, tail, request, rfl, fun other ↦ absurd route other⟩)
    (isComplete_fault (.bad cause)) (show 400 ≠ 200 by decide) ?_ ?_
  · simp [Effect.isWrite, Effect.takesBody]
  · simp

theorem settles_payment {length : Nat} (request : IsRequest stream head tail)
    (route : Route.ofHead head = .ingest) (declared : head.contentLength = some length)
    (whole : length ≤ tail.length) :
    (⟨[handIn (tail.take length), .respond ⟨200, !head.close, none⟩], asked,
      if head.close then none else some (tail.drop length)⟩ : Dealt).Settles head stream := by
  rw [← List.take_append_drop length tail] at request
  obtain ⟨octets, cut, isRequest⟩ := request.of_append
  refine ⟨⟨octets, [.begin head, handIn (tail.take length)], ⟨200, !head.close, none⟩⟩,
    tail.drop length, rfl, cut, ?_, ?_⟩
  · have taken := handIn_cases (tail.take length)
    have quiet : (handIn (tail.take length)).isWrite = false := by
      rcases taken with ⟨_, _, is⟩ | ⟨_, _, _, is⟩ <;> rw [is] <;> rfl
    have noQuestion (scope : Scope) (query : Option String) :
        .ask scope query ≠ handIn (tail.take length) := by
      rcases taken with ⟨_, _, is⟩ | ⟨_, _, _, is⟩ <;> rw [is] <;> exact Effect.noConfusion
    constructor
    · exact .inl ⟨head, _, isRequest, rfl, fun other ↦ absurd route other⟩
    · intro e there
      rcases List.mem_pair.mp there with rfl | rfl
      · rfl
      · exact quiet
    · exact isComplete_bare _ (by decide) (by decide)
    · intro head' body' isRequest' _ _
      obtain ⟨rfl, rfl⟩ := isRequest.unique isRequest'
      rw [List.length_take, Nat.min_eq_left whole]
      refine ⟨declared, taken.imp ?_ ?_⟩
      · rintro ⟨payload, spelt, is⟩
        exact ⟨payload, spelt, by rw [is]⟩
      · rintro ⟨fault, fails, spellsNone, is⟩
        exact ⟨fault, fails, spellsNone, by rw [is]⟩
    · intro e _ _
      exact ⟨rfl, head, _, isRequest, route⟩
    · simp [noQuestion]
  · rcases head.close <;> rfl

theorem settles_summary {scope : Scope} {query : Option String} {json : Bytes}
    (request : IsRequest stream head tail) (route : Route.ofHead head = .summary scope query)
    (small : json.length < Numeral.limit64) :
    (⟨[.ask scope query, .respond ⟨200, !head.close, some json⟩], asked + 1,
      if head.close then none else some tail⟩ : Dealt).Settles head stream := by
  obtain ⟨octets, cut, isRequest⟩ := request.head_alone
  refine ⟨⟨octets, [.begin head, .ask scope query], ⟨200, !head.close, some json⟩⟩, tail, rfl, cut,
    ?_, ?_⟩
  · constructor
    · exact .inl ⟨head, [], isRequest, rfl, fun _ ↦ rfl⟩
    · simp [Effect.isWrite]
    · exact Reply.isComplete (show 100 ≤ 200 by decide) (show 200 < 1000 by decide) small
    · intro head' body' isRequest' payment
      obtain ⟨rfl, -⟩ := isRequest.unique isRequest'
      rw [route] at payment
      cases payment
    · simp [Effect.takesBody]
    · intro scope' query' there
      have same : scope' = scope ∧ query' = query := by simpa using there
      obtain ⟨rfl, rfl⟩ := same
      exact ⟨head, [], isRequest, route⟩
  · rcases head.close <;> rfl

theorem settles_no_summary {scope : Scope} {query : Option String} {fault : RequestFault}
    (request : IsRequest stream head tail) (route : Route.ofHead head = .summary scope query)
    (present : fault.isDisconnect = false) :
    (⟨.ask scope query :: refusal fault, asked + 1, none⟩ : Dealt).Settles head
      stream := by
  obtain ⟨octets, cut, isRequest⟩ := request.head_alone
  refine ⟨⟨octets, [.begin head, .ask scope query, .report fault], ⟨fault.status, false, none⟩⟩,
    tail, ?_, cut, ?_, rfl⟩
  · rw [refusal_of_present present]
    rfl
  · have refused : fault.status ≠ 200 := by
      rcases status_fault fault with status | status <;> rw [status] <;> decide
    refine proper_of_refused (.inl ⟨head, [], isRequest, rfl, fun _ ↦ rfl⟩) (isComplete_fault fault)
      refused ?_ ?_
    · simp [Effect.isWrite, Effect.takesBody]
    · intro scope' query' there
      have same : scope' = scope ∧ query' = query := by simpa using there
      obtain ⟨rfl, rfl⟩ := same
      exact ⟨head, [], isRequest, route⟩

theorem settles_notFound (keepAlive : Bool) (request : IsRequest stream head tail) :
    (⟨[.respond ⟨404, keepAlive, none⟩], asked, if keepAlive then some tail else none⟩ :
      Dealt).Settles head stream := by
  obtain ⟨octets, cut, isRequest⟩ := request.head_alone
  refine ⟨⟨octets, [.begin head], ⟨404, keepAlive, none⟩⟩, tail, rfl, cut, ?_, rfl⟩
  refine proper_of_refused (.inl ⟨head, [], isRequest, rfl, fun _ ↦ rfl⟩)
    (isComplete_bare keepAlive (by decide) (by decide)) (show 404 ≠ 200 by decide) ?_ ?_
  · simp [Effect.isWrite, Effect.takesBody]
  · simp

/-- **Every request whose head has been read is settled.** -/
theorem settles_deal (asked : Nat) (here : front capacity stream = .request head tail)
    (tellable : ∀ n, Tellable (answers n)) :
    (deal answers asked head tail).Settles head stream := by
  have request := isRequest_of_front here
  unfold deal
  split
  · next route =>
    split
    · exact settles_refused _ request route
    next length declared =>
    split
    · exact settles_refused _ request route
    split
    · exact settles_refused _ request route
    next whole => exact settles_payment request route declared (Nat.le_of_not_lt whole)
  · next scope query route =>
    have told := tellable asked
    split
    · next json ok =>
      rw [ok] at told
      exact settles_summary request route told
    · next fault failed =>
      rw [failed] at told
      exact settles_no_summary request route told
  · exact settles_notFound _ request

/-! ## A whole connection -/

/-- What is done on a connection is the answering of these requests, and `rest` is what is left of
the stream. -/
structure Disciplined (capacity : Nat) (stream : Bytes) (done : List Effect) (xs : List Answered)
    (rest : Bytes) : Prop where
  /-- What is done is what is done for the requests, in their order. -/
  effects : done = xs.flatMap Answered.effects
  /-- The requests stand in the stream in this order, with nothing between them. -/
  cut : stream = xs.flatMap Answered.request ++ rest
  proper : ∀ x ∈ xs, x.Proper
  /-- After each response but the last the connection is kept. -/
  kept : ∀ x ∈ xs.dropLast, x.reply.keepAlive = true
  /-- If the connection is to be kept after the last response, then no head comes any more. -/
  ended : (∀ x ∈ xs.getLast?, x.reply.keepAlive = true) →
    Header.blockEnd? rest = none ∧ rest.length < capacity

theorem Disciplined.cons {x : Answered} {done : List Effect} {xs : List Answered}
    (h : Disciplined capacity stream done xs rest) (proper : x.Proper)
    (kept : x.reply.keepAlive = true) :
    Disciplined capacity (x.request ++ stream) (x.effects ++ done) (x :: xs) rest where
  effects := by rw [h.effects, List.flatMap_cons]
  cut := by rw [h.cut, List.flatMap_cons, List.append_assoc]
  proper y there := by
    rcases List.mem_cons.mp there with rfl | there
    · exact proper
    · exact h.proper y there
  kept y there := by
    rcases xs with _ | ⟨next, xs⟩
    · cases there
    · rw [List.dropLast_cons_of_ne_nil (List.cons_ne_nil _ _)] at there
      rcases List.mem_cons.mp there with rfl | there
      · exact kept
      · exact h.kept y there
  ended last := by
    refine h.ended fun y there ↦ last y ?_
    rcases xs with _ | ⟨next, xs⟩
    · cases there
    · rwa [List.getLast?_cons_cons]

theorem disciplined_last {x : Answered} (rest : Bytes) (proper : x.Proper)
    (closed : x.reply.keepAlive = false) :
    Disciplined capacity (x.request ++ rest) x.effects [x] rest where
  effects := (List.flatMap_singleton _ _).symm
  cut := by rw [List.flatMap_singleton]
  proper y there := List.mem_singleton.mp there ▸ proper
  kept y there := by cases there
  ended last := by
    rw [last x rfl] at closed
    cases closed

theorem of_front_nothing (h : front capacity stream = .nothing) :
    Header.blockEnd? stream = none ∧ stream.length < capacity := by
  rw [front_eq] at h
  split at h
  · split at h
    · split at h <;> cases h
    · cases h
  · next none_ =>
    split at h
    · cases h
    · next short => exact ⟨none_, Nat.lt_of_not_le short⟩

theorem disciplined_unread (capacity : Nat) (stream : Bytes) (cause : BadRequest) :
    ∃ xs rest, Disciplined capacity stream (refusal (.bad cause)) xs rest := by
  have proper : (⟨stream, [.report (.bad cause)], ⟨400, false, none⟩⟩ : Answered).Proper := by
    refine proper_of_refused (.inr ⟨cause, rfl, rfl⟩) (isComplete_fault (.bad cause))
      (show 400 ≠ 200 by decide) ?_ ?_
    · simp [Effect.isWrite, Effect.takesBody]
    · simp
  have last : Disciplined capacity (stream ++ []) (refusal (.bad cause)) _ [] :=
    disciplined_last [] proper rfl
  rw [List.append_nil] at last
  exact ⟨_, [], last⟩

/-- **A transcript is disciplined.** -/
theorem disciplined_transcript (capacity : Nat) (asked : Nat) (stream : Bytes)
    (tellable : ∀ n, Tellable (answers n)) :
    ∃ xs rest, Disciplined capacity stream (transcript capacity answers asked stream) xs rest := by
  fun_induction transcript capacity answers asked stream with
  | case1 asked stream nothing =>
    exact ⟨[], stream, rfl, rfl, by simp, by simp, fun _ ↦ of_front_nothing nothing⟩
  | case2 asked stream oversize => exact disciplined_unread capacity stream _
  | case3 asked stream malformed => exact disciplined_unread capacity stream _
  | case4 asked stream head tail here dealt none_ =>
    obtain ⟨x, rest, effects, rfl, proper, next⟩ := settles_deal asked here tellable
    rw [effects]
    -- nothing is left for another request, so the response has closed the connection
    refine ⟨[x], rest, disciplined_last rest proper ?_⟩
    by_contra kept
    rw [none_, if_pos (Bool.not_eq_false _ ▸ kept)] at next
    cases next
  | case5 asked stream head tail here dealt next some_ ih =>
    obtain ⟨x, rest, effects, rfl, proper, goes⟩ := settles_deal asked here tellable
    obtain ⟨xs, rest', disciplined⟩ := ih
    have kept : x.reply.keepAlive = true := by
      by_contra closed
      rw [some_, if_neg closed] at goes
      cases goes
    rw [some_, if_pos kept] at goes
    cases goes
    refine ⟨x :: xs, rest', ?_⟩
    rw [show .begin head :: dealt.effects = x.effects from effects]
    exact disciplined.cons proper kept

theorem Disciplined.written {done : List Effect} {xs : List Answered}
    (h : Disciplined capacity stream done xs rest) :
    done.flatMap Effect.written = xs.flatMap (·.reply.write) := by
  have response {x : Answered} (proper : x.Proper) :
      x.effects.flatMap Effect.written = x.reply.write := by
    have silent : x.before.flatMap Effect.written = [] :=
      List.flatMap_eq_nil_iff.mpr fun e there ↦
        Effect.written_of_not_isWrite (proper.silent e there)
    rw [Answered.effects, List.flatMap_append, silent, List.flatMap_singleton]
    rfl
  rw [h.effects, List.flatMap_assoc]
  exact List.flatMap_congr fun x there ↦ response (h.proper x there)

/-- **The discipline of a connection.** Whatever a client sends and however it arrives, what is done
for it is the answering of requests in the order in which they stand in the stream, and what is
written are their responses, one after the other, each of them complete. Each response but the last
keeps the connection. Nothing is done after a response that closes it; and where the last response
keeps it, the stream ends before another head has ended. A payment that is answered with status 200
has been handed in before, once and with its whole body, unless that is no text, and nothing else is
handed in. -/
theorem serve_disciplined {terms : Terms} (pos : 0 < terms.bodyChunk)
    (tellable : ∀ n, Tellable (answers n)) (stream : Reads) :
    ∃ xs rest,
      Disciplined terms.headCapacity stream.flat (serve terms answers stream) xs rest ∧
      (serve terms answers stream).flatMap Effect.written = xs.flatMap (·.reply.write) := by
  rw [Session.serve_eq_transcript answers pos stream]
  obtain ⟨xs, rest, disciplined⟩ :=
    disciplined_transcript terms.headCapacity 0 stream.flat tellable
  exact ⟨xs, rest, disciplined, disciplined.written⟩

/-- A payment in two pieces, one whose body is no text, a request for what is not there that asks to
close the connection, and another payment, which is left in the stream. -/
theorem serve_disciplined_until_closed :
    let last : Bytes := utf8 "GET / HTTP/1.1\r\nConnection: close\r\n\r\n" ++ posted
    let stream : Reads := [utf8 "POST /payments HTTP/1.1\r\nContent-Length: 2\r\n\r\n\x7b",
      utf8 "\x7dPOST /payments HTTP/1.1\r\nContent-Length: 1\r\n\r\n" ++ 0xFF :: last]
    let answers : Answers := fun _ ↦ Gateway.tidings (.ok .zero)
    0 < 1 ∧ (∀ n, Tellable (answers n)) ∧
      (∃ xs rest, Disciplined 64 stream.flat (serve ⟨64, 1⟩ answers stream) xs rest ∧
        (serve ⟨64, 1⟩ answers stream).flatMap Effect.written = xs.flatMap (·.reply.write)) ∧
      serve ⟨64, 1⟩ answers stream =
        [.begin ⟨"POST", "/payments", some 2, false⟩, .ingest (utf8 "\x7b\x7d") "\x7b\x7d",
          .respond ⟨200, true, none⟩, .begin ⟨"POST", "/payments", some 1, false⟩,
          .discard [0xFF] (.invalid 0 1), .respond ⟨200, true, none⟩,
          .begin ⟨"GET", "/", none, true⟩, .respond ⟨404, false, none⟩] := by
  intro last stream answers
  have pos : 0 < (⟨64, 1⟩ : Terms).bodyChunk := Nat.zero_lt_one
  have tellable : ∀ n, Tellable (answers n) := fun _ ↦ tellable_tidings _
  refine ⟨pos, tellable, serve_disciplined pos tellable stream, ?_⟩
  have payment : front 64 stream.flat = .request ⟨"POST", "/payments", some 2, false⟩
      (utf8 "\x7b\x7dPOST /payments HTTP/1.1\r\nContent-Length: 1\r\n\r\n" ++ 0xFF :: last) := by
    decide +kernel
  have paid : deal answers 0 ⟨"POST", "/payments", some 2, false⟩
      (utf8 "\x7b\x7dPOST /payments HTTP/1.1\r\nContent-Length: 1\r\n\r\n" ++ 0xFF :: last)
      = ⟨[.ingest (utf8 "\x7b\x7d") "\x7b\x7d", .respond ⟨200, true, none⟩], 0,
        some (utf8 "POST /payments HTTP/1.1\r\nContent-Length: 1\r\n\r\n" ++ 0xFF :: last)⟩ := by
    decide +kernel
  have noText : front 64
      (utf8 "POST /payments HTTP/1.1\r\nContent-Length: 1\r\n\r\n" ++ 0xFF :: last)
      = .request ⟨"POST", "/payments", some 1, false⟩ (0xFF :: last) := by decide +kernel
  have dropped : deal answers 0 ⟨"POST", "/payments", some 1, false⟩ (0xFF :: last)
      = ⟨[.discard [0xFF] (.invalid 0 1), .respond ⟨200, true, none⟩], 0, some last⟩ := by
    decide +kernel
  have absent : front 64 last = .request ⟨"GET", "/", none, true⟩ posted := by decide +kernel
  have missed : deal answers 0 ⟨"GET", "/", none, true⟩ posted
      = ⟨[.respond ⟨404, false, none⟩], 0, none⟩ := rfl
  rw [Session.serve_eq_transcript answers pos stream, transcript_of_kept payment paid,
    transcript_of_kept noText dropped, transcript_of_closed absent missed]
  rfl

end PaymentRelay.Edge
