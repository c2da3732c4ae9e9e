import PaymentRelay.Proofs.Http.Readings
import PaymentRelay.Proofs.Http.Responses

/-!
# Exchanges in lockstep stay in step

On one connection a request is answered before the next is written, so no read ever brings octets of
two responses. Then a reader takes from the stream exactly the response that it reads: what it asks
for lies within the response, because the head ends within its buffer and the body is as long as the
head says, and the read in which it finds the response complete is the last of that response. What
is left is the stream of the responses that follow, and the next reading begins at the first of
them.

The buffers go from one reading to the next with what they hold, and each body goes to a sink of its
own. A reader that throws a body away needs room for it: without any, it would take the first of its
reads for the end of the stream.
-/

namespace PaymentRelay.Exchange

open Header (terminator)

/-- A response and nothing else: a head that ends within `capacity` octets and tells this status,
and this body, which is as long as the head says, or empty if the head does not say. -/
def IsResponse (capacity : Nat) (response : Bytes) (status : Status) (body : Bytes) : Prop :=
  ∃ block, response = block ++ (terminator ++ body) ∧
    Header.blockEnd? response = some block.length ∧
    block.length + terminator.length ≤ capacity ∧ statusOf? response = some status ∧
    body.length = (Header.contentLength? block).getD 0

/-- A response as it is delivered, in pieces that hold something of it and of no other response. -/
structure Delivery (capacity : Nat) where
  pieces : Reads
  status : Status
  body : Bytes
  solid : [] ∉ pieces
  isResponse : IsResponse capacity pieces.flat status body

variable {capacity : Nat} {response read body : Bytes} {status : Status}

theorem IsResponse.whole (is : IsResponse capacity response status body) :
    Whole capacity response status body := by
  obtain ⟨block, rfl, ends, fits, told, length⟩ := is
  refine ⟨block.length, ends, fits, told, ?_, ?_⟩
  · rw [List.take_left, length]
  · rw [← List.length_append, ← List.append_assoc, List.drop_left]

theorem IsResponse.framed (is : IsResponse capacity response status body) :
    Framed capacity response := by
  obtain ⟨block, rfl, ends, fits, -, length⟩ := is
  refine ⟨block.length, ends, fits, ?_⟩
  rw [List.take_left, ← length]
  simp only [List.length_append]
  omega

/-! ## One response -/

variable {terms : Terms}

theorem body_ne_nil_of_holds {answer : Answer} {buffer : Bytes} {pieces : List Bytes}
    {missing : Nat} (is : IsResponse terms.capacity response status body)
    (start : read <+: response)
    (holds : (Stage.body answer buffer pieces missing).Holds terms read) : body ≠ [] := by
  obtain ⟨block, rfl, ends, fits, -, length⟩ := is
  obtain ⟨i, found, -, declared, left, total, -⟩ := holds
  have within := Bytes.find?_add_le found
  rw [List.length_take] at within
  obtain ⟨more, cut⟩ := start
  have same : Header.blockEnd? (read ++ more) = some i := by
    rw [← List.take_append_drop terms.capacity read, List.append_assoc]
    exact Bytes.find?_append _ found
  rw [cut, ends] at same
  cases same
  have head : read.take block.length = block := by
    have same : (read ++ more).take block.length = read.take block.length :=
      List.take_append_of_le_length (by omega)
    rw [← same, cut, List.take_left]
  rw [head, ← length] at declared
  rintro rfl
  rw [declared, List.length_nil] at total
  omega

theorem room_pos_of_response {stage : Stage} (usable : terms.sink = .discard 0 → body = [])
    (is : IsResponse terms.capacity response status body) (start : read <+: response)
    (holds : stage.Holds terms read) : 0 < stage.room terms := by
  cases stage with
  | line buffer =>
    obtain ⟨rfl, short, -⟩ := holds
    exact Nat.sub_pos_of_lt short
  | block status buffer =>
    obtain ⟨rfl, short, -⟩ := holds
    exact Nat.sub_pos_of_lt short
  | body answer buffer pieces missing =>
    have some_ := body_ne_nil_of_holds is start holds
    refine room_pos_of_holds (fun n sink ↦ Nat.pos_of_ne_zero ?_) holds
    rintro rfl
    exact some_ (usable sink)

/-- **A reading takes its own response** from a stream of responses, and leaves the others. -/
theorem readFrom_response {read : Bytes} {state : State} {left : Reads} (more : Reads)
    (usable : terms.sink = .discard 0 → body = [])
    (is : IsResponse terms.capacity response status body) (holds : state.Holds terms read)
    (knows : state.Knows response read) (cut : read ++ left.flat = response) (solid : [] ∉ left) :
    ∃ result, readFrom terms state (left ++ more) = (.complete result, more) ∧
      (State.complete result).Holds terms response := by
  have start : read <+: response := ⟨left.flat, cut⟩
  cases state with
  | complete result =>
    obtain ⟨rfl, -⟩ := knows
    have none_ : left.flat = [] := List.append_right_eq_self.mp cut
    have none_left : left = [] := Reads.eq_nil_of_solid solid none_
    subst none_left
    exact ⟨result, by rw [readFrom, List.nil_append], holds⟩
  | failed fault =>
    obtain ⟨-, -, -, -, told, -⟩ := is
    have unknown : statusOf? response = none := knows
    rw [told] at unknown
    cases unknown
  | reading stage =>
    have missing := length_lt_of_knows is.framed knows start
    have some_ : left ≠ [] := by
      rintro rfl
      rw [← cut, List.length_append] at missing
      exact Nat.lt_irrefl _ missing
    obtain ⟨octets, rest, took, some_, within, solid, flat⟩ :=
      Reads.read_of_solid solid some_ (room_pos_of_response usable is start holds) more
    have start : read ++ octets <+: response := by
      rw [← cut, ← flat, ← List.append_assoc]
      exact List.prefix_append _ _
    have shorter : rest.flat.length < left.flat.length := by
      rw [← flat, List.length_append]
      exact Nat.lt_add_of_pos_left (List.length_pos_iff.mpr some_)
    have again := readFrom_response more usable is (holds_feed holds some_ within)
      (knows_feed is.framed knows some_ start) (by rw [List.append_assoc, flat, cut]) solid
    obtain ⟨b, bs, rfl⟩ := List.exists_cons_of_ne_nil some_
    rw [readFrom]
    split
    · next rest' ended =>
      rw [took] at ended
      cases ended
    · next b' bs' rest' found =>
      rw [took] at found
      cases found
      exact again
termination_by left.flat.length

/-! ## One response after another -/

/-- What a reading of a delivery is to tell. -/
def Delivery.Answered (delivery : Delivery capacity) (sink : Sink)
    (result : Except Transport.Fault (Answer × Buffers)) : Prop :=
  ∃ buffers, result = .ok (⟨delivery.status, delivery.body.length⟩, buffers) ∧
    (sink = .collect → buffers.body = delivery.body)

/-- **A delivery is read into used buffers**, and nothing past it. -/
theorem answered_readInto (delivery : Delivery capacity) {sink : Sink}
    (usable : sink = .discard 0 → delivery.body = []) (buffers : Buffers) (more : Reads) :
    delivery.Answered sink (readInto ⟨capacity, sink⟩ buffers (delivery.pieces ++ more)).1 ∧
      (readInto ⟨capacity, sink⟩ buffers (delivery.pieces ++ more)).2 = more := by
  let terms : Terms := ⟨capacity, sink⟩
  have framed : Framed terms.capacity delivery.pieces.flat := delivery.isResponse.framed
  have begun : (start terms).Knows delivery.pieces.flat [] := knows_onLine framed List.nil_prefix
  obtain ⟨result, ended, body, here, kept⟩ := readFrom_response more usable delivery.isResponse
    (holds_start terms) begun (List.nil_append _) delivery.solid
  rw [front_of_whole delivery.isResponse.whole] at here
  injection here with answer same
  rw [start] at ended
  rw [readInto, Buffers.clearHead]
  dsimp only
  rw [ended]
  refine ⟨⟨_, congrArg (fun answer ↦ Except.ok (answer, _)) answer.symm, ?_⟩, rfl⟩
  rintro rfl
  exact (kept rfl).trans same.symm

/-- **Deliveries are read in lockstep**, each by one reading, and what follows them is left. -/
theorem answered_readEach (exchanges : List (Delivery capacity × Sink)) (buffers : Buffers)
    (more : Reads) (usable : ∀ e ∈ exchanges, e.2 = .discard 0 → e.1.body = []) :
    List.Forall₂ (fun e result ↦ e.1.Answered e.2 result) exchanges
        (readEach capacity buffers (exchanges.flatMap (·.1.pieces) ++ more)
          (exchanges.map Prod.snd)).1 ∧
      (readEach capacity buffers (exchanges.flatMap (·.1.pieces) ++ more)
        (exchanges.map Prod.snd)).2 = more := by
  induction exchanges generalizing buffers with
  | nil => exact ⟨List.Forall₂.nil, rfl⟩
  | cons e exchanges ih =>
    obtain ⟨⟨used, told, kept⟩, left⟩ := answered_readInto e.1 (usable e List.mem_cons_self) buffers
      (exchanges.flatMap (·.1.pieces) ++ more)
    have rest := ih used fun e mem ↦ usable e (List.mem_cons_of_mem _ mem)
    rw [List.flatMap_cons, List.append_assoc, List.map_cons, readEach]
    split
    · next fault stream failed =>
      rw [failed] at told
      cases told
    · next answer used' stream read =>
      rw [read] at told left
      cases told
      cases left
      exact ⟨List.Forall₂.cons ⟨used, rfl, kept⟩ rest.1, rest.2⟩

/-! ## Responses that the server writes -/

/-- **What the server writes is a response** for every reader into whose buffer its head fits. -/
theorem isResponse_write {keepAlive : Bool} {contentType : Option String} (body : Bytes)
    (least : 100 ≤ status) (three : status < 1000)
    (type : ∀ type ∈ contentType, Header.IsLine (utf8 type))
    (small : body.length < Numeral.limit64)
    (fits : (Response.head status keepAlive contentType body.length).length ≤ capacity) :
    IsResponse capacity (Response.write status keepAlive contentType body) status body := by
  rw [Response.head_eq, List.length_append] at fits
  refine ⟨Response.block status keepAlive contentType body.length, ?_, ?_, fits, ?_, ?_⟩
  · rw [Response.write, Response.head_eq, List.append_assoc]
  · exact Response.blockEnd?_head status type body
  · exact Response.statusOf?_head least three body
  · rw [Response.contentLength?_block status type small]
    rfl

theorem wantsClose_write (status : Status) {keepAlive : Bool} {contentType : Option String}
    (body : Bytes) (type : ∀ type ∈ contentType, Header.IsLine (utf8 type)) :
    (Header.blockEnd? (Response.write status keepAlive contentType body)).map
        (fun i ↦ Header.wantsClose ((Response.write status keepAlive contentType body).take i))
      = some (!keepAlive) := by
  rw [Response.write, Response.blockEnd?_head status type body, Option.map_some,
    Response.head_eq, List.append_assoc, List.take_left, Response.wantsClose_block status type]

/-- **Exchanges in lockstep stay in step.** Of any number of responses that follow one another on a
connection, none of them in one piece with octets of another, and each thrown away only if there is
room to read its body into, successive readings into the same buffers

* tell the statuses and the lengths, in order, and keep the bodies that are to be kept;
* leave, each of them, exactly the responses that follow, and whatever comes after.

All that the server writes are such responses, whatever the status, the type of the content and the
body, as long as the head fits; and their heads say whether the connection is to be closed. -/
theorem lockstep_exchanges (capacity : Nat) (exchanges : List (Delivery capacity × Sink))
    (buffers : Buffers) (more : Reads)
    (usable : ∀ e ∈ exchanges, e.2 = .discard 0 → e.1.body = []) :
    List.Forall₂ (fun e result ↦ e.1.Answered e.2 result) exchanges
        (readEach capacity buffers (exchanges.flatMap (·.1.pieces) ++ more)
          (exchanges.map Prod.snd)).1 ∧
      (∀ k, (readEach capacity buffers (exchanges.flatMap (·.1.pieces) ++ more)
          ((exchanges.take k).map Prod.snd)).2
            = (exchanges.drop k).flatMap (·.1.pieces) ++ more) ∧
      ∀ status keepAlive contentType body, 100 ≤ status → status < 1000 →
        (∀ type ∈ contentType, Header.IsLine (utf8 type)) → body.length < Numeral.limit64 →
        (Response.head status keepAlive contentType body.length).length ≤ capacity →
          let response := Response.write status keepAlive contentType body
          IsResponse capacity response status body ∧
            (Header.blockEnd? response).map (fun i ↦ Header.wantsClose (response.take i))
              = some (!keepAlive) := by
  refine ⟨(answered_readEach exchanges buffers more usable).1, ?_, ?_⟩
  · intro k
    have cut : exchanges.flatMap (·.1.pieces) ++ more = (exchanges.take k).flatMap (·.1.pieces) ++
        ((exchanges.drop k).flatMap (·.1.pieces) ++ more) := by
      rw [← List.append_assoc, ← List.flatMap_append, List.take_append_drop]
    rw [cut]
    exact (answered_readEach (exchanges.take k) buffers _
      fun e mem ↦ usable e (List.mem_of_mem_take mem)).2
  · intro status keepAlive contentType body least three type small fits response
    exact ⟨isResponse_write body least three type small fits, wantsClose_write status body type⟩

/-- A response with a body that is delivered after the head. -/
def late : Delivery 512 where
  pieces := [utf8 "HTTP/1.1 200 OK\x0d\x0aContent-Length: 5\x0d\x0a\x0d\x0a", utf8 "oops!"]
  status := 200
  body := utf8 "oops!"
  solid := by decide
  isResponse :=
    ⟨utf8 "HTTP/1.1 200 OK\x0d\x0aContent-Length: 5", by decide +kernel, by decide +kernel,
      by decide +kernel, by decide +kernel, by decide +kernel⟩

/-- Without room for a body, a reader takes the first read of it for the end of the stream. -/
theorem late_body_without_room :
    readEach 512 ⟨[], []⟩ late.pieces [.discard 0] = ([.error .endOfStream], [utf8 "oops!"]) ∧
      ¬ late.Answered (.discard 0) (.error .endOfStream) := by
  constructor
  · decide +kernel
  · rintro ⟨buffers, read, -⟩
    cases read

/-- The same response twice, thrown away and kept, before the beginning of a third. -/
theorem lockstep_of_two :
    let exchanges : List (Delivery 512 × Sink) := [(late, .discard 2), (late, .collect)]
    let used : Buffers := ⟨utf8 "stale", utf8 "stale"⟩
    let stream : Reads := late.pieces ++ (late.pieces ++ [utf8 "HTTP"])
    (∀ e ∈ exchanges, e.2 = .discard 0 → e.1.body = []) ∧
      List.Forall₂ (fun e result ↦ e.1.Answered e.2 result) exchanges
        (readEach 512 used stream [.discard 2, .collect]).1 ∧
      (readEach 512 used stream [.discard 2]).2 = late.pieces ++ [utf8 "HTTP"] ∧
      (readEach 512 used stream [.discard 2, .collect]).2 = [utf8 "HTTP"] := by
  intro exchanges used stream
  have usable : ∀ e ∈ exchanges, e.2 = .discard 0 → e.1.body = [] := by
    intro e mem none_
    rcases List.mem_pair.mp mem with rfl | rfl <;> cases none_
  obtain ⟨answered, left, -⟩ := lockstep_exchanges 512 exchanges used [utf8 "HTTP"] usable
  exact ⟨usable, answered, left 1, left 2⟩

end PaymentRelay.Exchange
