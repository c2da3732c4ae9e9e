import PaymentRelay.Edge.Connection

/-!
# What a stream says, read as a whole

A client's stream without its cuts. The head of a request is what stands before the first blank
line, which must end within the capacity; a payment's body is as many octets as the head declares;
the next request begins right after. `transcript` reads a stream in this way, request after request,
and lists what is to be done for the client.

Nothing here knows of reads, buffers or sessions: the blank line is looked for octet by octet, and
every effect is written out. `Framing` shows that the sessions of the edge server do what the
transcript says.
-/

namespace PaymentRelay.Edge

/-- What stands at the front of a stream. -/
inductive Front where
  /-- A request, and the octets after its head. -/
  | request (head : RequestHead) (tail : Bytes)
  /-- A head that cannot be read. -/
  | malformed
  /-- No head ends within the capacity, and there is no room for more. -/
  | oversize
  /-- The stream is over before a head has ended. -/
  | nothing
deriving DecidableEq, Repr

/-- What stands before the first blank line, and what after it. -/
def cutHead? : Bytes → Option (Bytes × Bytes)
  | [] => none
  | b :: bs =>
    if (b :: bs).take 4 = [0x0D, 0x0A, 0x0D, 0x0A] then some ([], bs.drop 3)
    else (cutHead? bs).map fun cut ↦ (b :: cut.1, cut.2)

/-- What stands at the front of a stream, if a head must end within `capacity` octets. -/
def front (capacity : Nat) (stream : Bytes) : Front :=
  match cutHead? stream with
  | some (block, tail) =>
    if block.length + 4 ≤ capacity then
      match RequestHead.read? block with
      | some head => .request head tail
      | none => .malformed
    else .oversize
  | none => if capacity ≤ stream.length then .oversize else .nothing

theorem eq_append_of_cutHead? {stream block tail : Bytes}
    (h : cutHead? stream = some (block, tail)) :
    stream = block ++ ([0x0D, 0x0A, 0x0D, 0x0A] ++ tail) := by
  induction stream generalizing block with
  | nil => cases h
  | cons b bs ih =>
    unfold cutHead? at h
    split at h
    · next here =>
      cases h
      rw [List.nil_append, ← here]
      exact (List.take_append_drop 4 (b :: bs)).symm
    · obtain ⟨⟨block', tail'⟩, later, same⟩ := Option.map_eq_some_iff.mp h
      cases same
      exact congrArg (List.cons b) (ih later)

theorem front_request_lt {capacity : Nat} {stream tail : Bytes} {head : RequestHead}
    (h : front capacity stream = .request head tail) : tail.length < stream.length := by
  unfold front at h
  split at h
  · next block tail' cut =>
    split at h
    · split at h
      · cases h
        rw [eq_append_of_cutHead? cut, List.length_append, List.length_append]
        exact Nat.lt_of_lt_of_le (Nat.lt_add_of_pos_left (by decide)) (Nat.le_add_left _ _)
      · cases h
    · cases h
  · split at h <;> cases h

/-- What is done for a client whose request fails: it is told so and the connection is closed,
unless the client has gone. -/
def refusal : RequestFault → List Effect
  | .bad cause => [.report (.bad cause), .respond ⟨400, false, none⟩]
  | .peer fault => [.report (.peer fault), .respond ⟨500, false, none⟩]
  | .internal text => [.report (.internal text), .respond ⟨500, false, none⟩]
  | .transport _ => []

/-- What becomes of the body of a payment. -/
def handIn (body : Bytes) : Effect :=
  match Utf8.decode body with
  | .ok payload => .ingest body payload
  | .error fault => .discard body fault

/-- How a request is dealt with. -/
structure Dealt where
  effects : List Effect
  /-- How many summaries have been asked for afterwards. -/
  asked : Nat
  /-- The octets with which the next request begins, unless there will be none. -/
  next : Option Bytes
deriving DecidableEq, Repr

/-- How a request is dealt with whose head is followed by `tail`, if `asked` summaries were asked
for before. -/
def deal (answers : Session.Answers) (asked : Nat) (head : RequestHead) (tail : Bytes) : Dealt :=
  let refuse (cause : BadRequest) : Dealt := ⟨refusal (.bad cause), asked, none⟩
  match Route.ofHead head with
  | .ingest =>
    match head.contentLength with
    | none => refuse .unknownLength
    | some length =>
      if 1048576 < length then refuse (.oversizeBody length)
      else if tail.length < length then refuse (.cutBody tail.length length)
      else
        ⟨[handIn (tail.take length), .respond ⟨200, !head.close, none⟩], asked,
          if head.close then none else some (tail.drop length)⟩
  | .summary scope query =>
    match answers asked with
    | .ok json =>
      ⟨[.ask scope query, .respond ⟨200, !head.close, some json⟩], asked + 1,
        if head.close then none else some tail⟩
    | .error fault => ⟨.ask scope query :: refusal fault, asked + 1, none⟩
  | .notFound =>
    let keepAlive := !head.close && !head.contentLength.any (0 < ·)
    ⟨[.respond ⟨404, keepAlive, none⟩], asked, if keepAlive then some tail else none⟩

theorem deal_next_le {answers : Session.Answers} {asked : Nat} {head : RequestHead}
    {tail next : Bytes} (h : (deal answers asked head tail).next = some next) :
    next.length ≤ tail.length := by
  unfold deal at h
  split at h
  · split at h
    · cases h
    split at h
    · cases h
    split at h
    · cases h
    dsimp only at h
    split at h
    · cases h
    · cases h
      rw [List.length_drop]
      exact Nat.sub_le _ _
  · split at h
    · dsimp only at h
      split at h <;> cases h
      exact Nat.le_refl _
    · cases h
  · dsimp only at h
    split at h <;> cases h
    exact Nat.le_refl _

/-- What is done for a client who sends this stream. -/
def transcript (capacity : Nat) (answers : Session.Answers) (asked : Nat) (stream : Bytes) :
    List Effect :=
  match _h : front capacity stream with
  | .nothing => []
  | .oversize => refusal (.bad (.oversizeHead capacity))
  | .malformed => refusal (.bad .malformedHead)
  | .request head tail =>
    let dealt := deal answers asked head tail
    match _n : dealt.next with
    | none => .begin head :: dealt.effects
    | some next =>
      .begin head :: dealt.effects ++ transcript capacity answers dealt.asked next
termination_by stream.length
decreasing_by exact Nat.lt_of_le_of_lt (deal_next_le _n) (front_request_lt _h)

/-- What is done for a client after a request that has been dealt with. -/
def Dealt.onward (capacity : Nat) (answers : Session.Answers) (dealt : Dealt) : List Effect :=
  match dealt.next with
  | none => []
  | some next => transcript capacity answers dealt.asked next

section Fronts

variable {capacity asked : Nat} {answers : Session.Answers} {stream : Bytes}

theorem transcript_of_nothing (h : front capacity stream = .nothing) :
    transcript capacity answers asked stream = [] := by
  rw [transcript]
  split <;> simp_all

theorem transcript_of_oversize (h : front capacity stream = .oversize) :
    transcript capacity answers asked stream
      = refusal (.bad (.oversizeHead capacity)) := by
  rw [transcript]
  split <;> simp_all

theorem transcript_of_malformed (h : front capacity stream = .malformed) :
    transcript capacity answers asked stream = refusal (.bad .malformedHead) := by
  rw [transcript]
  split <;> simp_all

theorem transcript_of_request {head : RequestHead} {tail : Bytes}
    (h : front capacity stream = .request head tail) :
    transcript capacity answers asked stream
      = .begin head :: (deal answers asked head tail).effects
        ++ (deal answers asked head tail).onward capacity answers := by
  rw [transcript]
  split
  · simp_all
  · simp_all
  · simp_all
  · next head' tail' h' =>
    rw [h] at h'
    cases h'
    dsimp only
    rw [Dealt.onward]
    split
    · next none => rw [none, List.append_nil]
    · next next some_ => rw [some_]

variable {head : RequestHead} {tail next : Bytes} {effects : List Effect} {asked' : Nat}

theorem transcript_of_kept (h : front capacity stream = .request head tail)
    (dealt : deal answers asked head tail = ⟨effects, asked', some next⟩) :
    transcript capacity answers asked stream
      = .begin head :: effects ++ transcript capacity answers asked' next := by
  rw [transcript_of_request h, dealt]
  rfl

theorem transcript_of_closed (h : front capacity stream = .request head tail)
    (dealt : deal answers asked head tail = ⟨effects, asked', none⟩) :
    transcript capacity answers asked stream = .begin head :: effects := by
  rw [transcript_of_request h, dealt]
  exact List.append_nil _

end Fronts

end PaymentRelay.Edge
