import PaymentRelay.Proofs.Bytes.Find
import PaymentRelay.Proofs.Edge.Transcript

/-!
# A session reads what the stream says

However a stream is cut, a session does for its client what the transcript of the whole stream says.

What a session has still to do is decided by its state and by the octets that have not arrived:
`outlook` reads it off the transcript. Nothing that a session does changes what is done in the end,
it only moves effects from the outlook into the past. The head buffer is what needs care. It never
holds more than the capacity, and while the session waits for a head it holds less and no blank
line, so that the blank line that ends the head, when it has arrived, is the first of the stream.
-/

namespace PaymentRelay.Edge

/-! ## The first blank line -/

theorem cutHead?_eq_findFrom (stream : Bytes) (i : Nat) :
    cutHead? stream = (Bytes.findFrom Header.terminator i stream).map fun j ↦
      (stream.take (j - i), stream.drop (j - i + Header.terminator.length)) := by
  induction stream generalizing i with
  | nil => rfl
  | cons b bs ih =>
    have here : Header.terminator.isPrefixOf (b :: bs) = true ↔
        (b :: bs).take 4 = [0x0D, 0x0A, 0x0D, 0x0A] := by
      rw [List.isPrefixOf_iff_prefix, List.prefix_iff_eq_take, eq_comm]
      rfl
    rw [cutHead?, Bytes.findFrom]
    -- either the blank line is here, or its place counts one octet more than in what follows
    by_cases found : (b :: bs).take 4 = [0x0D, 0x0A, 0x0D, 0x0A]
    · rw [if_pos found, if_pos (here.mpr found), Option.map_some, Nat.sub_self]
      rfl
    · rw [if_neg found, if_neg (found ∘ here.mp), ih (i + 1), Option.map_map]
      refine Option.map_congr fun j there ↦ ?_
      have after : i + 1 ≤ j := Bytes.le_of_findFrom there
      have one : j - i = j - (i + 1) + 1 := by omega
      rw [one, Nat.add_right_comm]
      rfl

/-- The first blank line is where a session finds the end of a header block. -/
theorem front_eq (capacity : Nat) (stream : Bytes) :
    front capacity stream =
      match Header.blockEnd? stream with
      | some i =>
        if i + Header.terminator.length ≤ capacity then
          match RequestHead.read? (stream.take i) with
          | some head => .request head (stream.drop (i + Header.terminator.length))
          | none => .malformed
        else .oversize
      | none => if capacity ≤ stream.length then .oversize else .nothing := by
  have cut : cutHead? stream = (Header.blockEnd? stream).map fun i ↦
      (stream.take i, stream.drop (i + Header.terminator.length)) := cutHead?_eq_findFrom stream 0
  rw [front, cut]
  cases found : Header.blockEnd? stream with
  | none => rfl
  | some i =>
    have within : i + Header.terminator.length ≤ stream.length := Bytes.find?_add_le found
    have length : (stream.take i).length = i := List.length_take_of_le (by omega)
    rw [Option.map_some]
    dsimp only
    rw [length]
    rfl

namespace Session

open Header (terminator)

variable {terms : Terms} {answers : Answers} {asked : Nat}

/-! ## What the transcript writes out -/

theorem fail_effects (fault : RequestFault) : (fail fault).2 = refusal fault := by
  rcases fault with _ | _ | _ | _ <;> rfl

theorem accept_effects (keepAlive : Bool) (body : Bytes) :
    accept keepAlive body = [handIn body, .respond ⟨200, keepAlive, none⟩] := rfl

/-! ## What is still to be done -/

/-- What is done after a request that leaves `rest` to the next. -/
def sequel (terms : Terms) (answers : Answers) (asked : Nat) (keepAlive : Bool) (rest : Bytes) :
    List Effect :=
  if keepAlive then transcript terms.headCapacity answers asked rest else []

/-- What a session has still to do if `stream` is what has not arrived. -/
def outlook (terms : Terms) (answers : Answers) (asked : Nat) (session : Session) (stream : Bytes) :
    List Effect :=
  match session with
  | .head buffer => transcript terms.headCapacity answers asked (buffer ++ stream)
  | .body keepAlive length pieces missing =>
    if missing ≤ stream.length then
      [handIn (pieces.reverse.flatten ++ stream.take missing), .respond ⟨200, keepAlive, none⟩]
        ++ sequel terms answers asked keepAlive (stream.drop missing)
    else refusal (.bad (.cutBody (length - missing + stream.length) length))
  | .summary keepAlive buffer =>
    match answers asked with
    | .ok json =>
      .respond ⟨200, keepAlive, some json⟩
        :: sequel terms answers (asked + 1) keepAlive (buffer ++ stream)
    | .error fault => refusal fault
  | .closed => []

/-- What is still to be done from where one request has brought the session. -/
def Outcome.outlook (terms : Terms) (answers : Answers) (asked : Nat) (outcome : Outcome)
    (stream : Bytes) : List Effect :=
  match outcome with
  | .waits session => session.outlook terms answers asked stream
  | .served rest => transcript terms.headCapacity answers asked (rest ++ stream)

/-- What a session keeps to. -/
def Sound (terms : Terms) : Session → Prop
  | .head buffer => Header.blockEnd? buffer = none ∧ buffer.length < terms.headCapacity
  | .body _ length pieces missing => 0 < missing ∧ pieces.reverse.flatten.length + missing = length
  | .summary _ buffer => buffer.length ≤ terms.headCapacity
  | .closed => True

/-- An outcome that leaves the session as it should be. -/
def Outcome.Sound (terms : Terms) : Outcome → Prop
  | .waits session => session.Sound terms
  | .served rest => rest.length ≤ terms.headCapacity

theorem outlook_after (keepAlive : Bool) (rest stream : Bytes) :
    (Outcome.after keepAlive rest).outlook terms answers asked stream
      = sequel terms answers asked keepAlive (rest ++ stream) := by
  cases keepAlive <;> rfl

theorem sound_after {rest : Bytes} (keepAlive : Bool) (h : rest.length ≤ terms.headCapacity) :
    (Outcome.after keepAlive rest).Sound terms := by
  cases keepAlive
  · exact trivial
  · exact h

/-! ## One request -/

theorem onward_sequel (effects : List Effect) (close : Bool) (next : Bytes) :
    Dealt.onward terms.headCapacity answers
        ⟨effects, asked, if close then none else some next⟩
      = sequel terms answers asked (!close) next := by
  cases close <;> rfl

theorem outlook_onBody (pos : 0 < terms.bodyChunk) (close : Bool) (length : Nat)
    (rest stream : Bytes) :
    (onBody terms (!close) length rest).2
        ++ (onBody terms (!close) length rest).1.outlook terms answers asked stream
      = if (rest ++ stream).length < length then
          refusal (.bad (.cutBody (rest ++ stream).length length))
        else [handIn ((rest ++ stream).take length), .respond ⟨200, !close, none⟩]
          ++ sequel terms answers asked (!close) ((rest ++ stream).drop length) := by
  rw [List.length_append]
  by_cases here : length ≤ rest.length
  · rw [onBody, if_pos here, outlook_after, if_neg (by omega), List.take_append_of_le_length here,
      List.drop_append_of_le_length here, accept_effects]
  · -- part of the body has arrived with the head, the rest is still in the stream
    rw [onBody, if_neg here, if_neg (Nat.ne_of_gt pos), List.nil_append, Outcome.outlook, outlook]
    by_cases cut : rest.length + stream.length < length
    · have arrived : length - (length - rest.length) + stream.length
          = rest.length + stream.length := by omega
      rw [if_neg (by omega), if_pos cut, arrived]
    · have whole : rest.take length = rest := List.take_of_length_le (by omega)
      have past : rest.drop length = [] := List.drop_of_length_le (by omega)
      rw [if_pos (by omega), if_neg cut, List.take_append, List.drop_append, whole, past,
        List.reverse_singleton, List.flatten_singleton, List.nil_append]

/-- What is done about a request is what the transcript says, whatever of it is left to be done. -/
theorem outlook_onHead (pos : 0 < terms.bodyChunk) (head : RequestHead) (rest stream : Bytes) :
    (onHead terms head rest).2 ++ (onHead terms head rest).1.outlook terms answers asked stream
      = (deal answers asked head (rest ++ stream)).effects
        ++ (deal answers asked head (rest ++ stream)).onward terms.headCapacity answers := by
  unfold onHead deal
  cases Route.ofHead head with
  | ingest =>
    dsimp only
    cases head.contentLength with
    | none => rfl
    | some length =>
      dsimp only
      rw [show maxBody = 1048576 from rfl]
      by_cases oversize : 1048576 < length
      · rw [if_pos oversize, if_pos oversize]
        rfl
      rw [if_neg oversize, if_neg oversize, outlook_onBody pos]
      by_cases cut : (rest ++ stream).length < length
      · rw [if_pos cut, if_pos cut]
        exact (List.append_nil _).symm
      · rw [if_neg cut, if_neg cut, onward_sequel]
  | summary scope query =>
    dsimp only [Outcome.outlook, outlook]
    cases answers asked with
    | ok json =>
      dsimp only
      rw [onward_sequel]
      rfl
    | error fault => exact (List.append_nil _).symm
  | notFound =>
    dsimp only
    rw [outlook_after]
    cases (!head.close && !head.contentLength.any (0 < ·)) <;> rfl

theorem sound_onHead (head : RequestHead) {rest : Bytes}
    (h : rest.length ≤ terms.headCapacity) : (onHead terms head rest).1.Sound terms := by
  unfold onHead
  split
  · split
    · exact trivial
    split
    · exact trivial
    unfold onBody
    split
    · refine sound_after _ ?_
      rw [List.length_drop]
      omega
    split
    · exact trivial
    · next length _ short _ =>
      refine ⟨by omega, ?_⟩
      rw [List.reverse_singleton, List.flatten_singleton]
      omega
  · exact h
  · exact sound_after _ h

/-! ## From the front of a stream -/

theorem front_append_of_blockEnd {capacity i : Nat} {buffer : Bytes} (stream : Bytes)
    (found : Header.blockEnd? buffer = some i) (within : buffer.length ≤ capacity) :
    front capacity (buffer ++ stream) =
      match RequestHead.read? (buffer.take i) with
      | some lead => .request lead (buffer.drop (i + terminator.length) ++ stream)
      | none => .malformed := by
  have fits : i + terminator.length ≤ buffer.length := Bytes.find?_add_le found
  have there : Header.blockEnd? (buffer ++ stream) = some i := Bytes.find?_append stream found
  rw [front_eq, there]
  dsimp only
  rewrite [if_pos (by omega), List.take_append_of_le_length (by omega),
    List.drop_append_of_le_length fits]
  rfl

/-- A buffer that is full and holds no blank line is the front of no request. -/
theorem front_append_of_full {capacity : Nat} {buffer : Bytes} (stream : Bytes)
    (none_ : Header.blockEnd? buffer = none) (full : buffer.length = capacity) :
    front capacity (buffer ++ stream) = .oversize := by
  rw [front_eq]
  split
  · next i found =>
    refine if_neg fun within ↦ ?_
    have there : Header.blockEnd? buffer = some i := Bytes.find?_of_append found (full ▸ within)
    rw [none_] at there
    cases there
  · refine if_pos ?_
    rw [List.length_append]
    omega

variable (answers asked)

/-- Going on from a buffer, as far as one request, leaves to be done what the transcript says. -/
theorem outlook_request (pos : 0 < terms.bodyChunk) {buffer : Bytes}
    (within : buffer.length ≤ terms.headCapacity) (stream : Bytes) :
    (request terms buffer).2 ++ (request terms buffer).1.outlook terms answers asked stream
        = transcript terms.headCapacity answers asked (buffer ++ stream) ∧
      (request terms buffer).1.Sound terms := by
  cases found : Header.blockEnd? buffer with
  | none =>
    unfold request
    rw [found]
    dsimp only
    by_cases full : terms.headCapacity ≤ buffer.length
    · rw [if_pos full, transcript_of_oversize
        (front_append_of_full stream found (Nat.le_antisymm within full))]
      exact ⟨List.append_nil _, trivial⟩
    · rw [if_neg full]
      exact ⟨rfl, found, Nat.lt_of_not_le full⟩
  | some i =>
    have front_eq := front_append_of_blockEnd stream found within
    unfold request
    rw [found]
    dsimp only
    cases read : RequestHead.read? (buffer.take i) with
    | none =>
      rw [read] at front_eq
      rw [transcript_of_malformed front_eq]
      exact ⟨List.append_nil _, trivial⟩
    | some head =>
      rw [read] at front_eq
      dsimp only
      rw [transcript_of_request front_eq, List.cons_append, List.cons_append,
        outlook_onHead pos]
      refine ⟨rfl, sound_onHead head ?_⟩
      rw [List.length_drop]
      omega

/-- Going on from a buffer, request after request, leaves to be done what the transcript says. -/
theorem outlook_advance (pos : 0 < terms.bodyChunk) {buffer : Bytes}
    (within : buffer.length ≤ terms.headCapacity) (stream : Bytes) :
    (advance terms buffer).2 ++ (advance terms buffer).1.outlook terms answers asked stream
        = transcript terms.headCapacity answers asked (buffer ++ stream) ∧
      (advance terms buffer).1.Sound terms := by
  fun_induction advance terms buffer with
  | case1 buffer session effects h =>
    have one := outlook_request answers asked pos within stream
    rw [h] at one
    exact one
  | case2 buffer rest effects h session more eq ih =>
    obtain ⟨said, sound⟩ := outlook_request answers asked pos within stream
    rw [h] at said sound
    obtain ⟨later, kept⟩ := ih sound
    rw [eq] at later kept
    refine ⟨?_, kept⟩
    rw [← said, List.append_assoc]
    exact congrArg (effects ++ ·) later

theorem outlook_proceed (pos : 0 < terms.bodyChunk) (keepAlive : Bool) {rest : Bytes}
    (within : rest.length ≤ terms.headCapacity) (stream : Bytes) :
    (proceed terms keepAlive rest).2
          ++ (proceed terms keepAlive rest).1.outlook terms answers asked stream
        = sequel terms answers asked keepAlive (rest ++ stream) ∧
      (proceed terms keepAlive rest).1.Sound terms := by
  cases keepAlive
  · exact ⟨rfl, trivial⟩
  · exact outlook_advance answers asked pos within stream

/-! ## What is told to a session -/

theorem outlook_summary_of_ok {keepAlive : Bool} {buffer stream json : Bytes}
    (told : answers asked = .ok json) :
    (Session.summary keepAlive buffer).outlook terms answers asked stream
      = .respond ⟨200, keepAlive, some json⟩
        :: sequel terms answers (asked + 1) keepAlive (buffer ++ stream) := by
  rw [outlook, told]

theorem outlook_summary_of_error {keepAlive : Bool} {buffer stream : Bytes} {fault : RequestFault}
    (told : answers asked = .error fault) :
    (Session.summary keepAlive buffer).outlook terms answers asked stream = refusal fault := by
  rw [outlook, told]

/-- A session that is told its summary has the rest of its outlook left. -/
theorem outlook_answer (pos : 0 < terms.bodyChunk) (keepAlive : Bool) {buffer : Bytes}
    (sound : (Session.summary keepAlive buffer).Sound terms) (stream : Bytes) :
    (answer terms (.summary keepAlive buffer) (answers asked)).2
          ++ (answer terms (.summary keepAlive buffer) (answers asked)).1.outlook terms answers
            (asked + 1) stream
        = (Session.summary keepAlive buffer).outlook terms answers asked stream ∧
      (answer terms (.summary keepAlive buffer) (answers asked)).1.Sound terms := by
  cases told : answers asked with
  | ok json =>
    obtain ⟨said, kept⟩ :=
      outlook_proceed answers (asked + 1) pos keepAlive sound stream
    rw [outlook_summary_of_ok answers asked told]
    exact ⟨congrArg (List.cons _) said, kept⟩
  | error fault =>
    rw [outlook_summary_of_error answers asked told, ← fail_effects]
    exact ⟨List.append_nil _, trivial⟩

/-- A session that is told all the summaries that it asks for has the rest of its outlook left, and
waits for no other. -/
theorem outlook_answerAll (pos : 0 < terms.bodyChunk) {session : Session}
    (sound : session.Sound terms) (stream : Bytes) :
    (answerAll terms answers asked session).2.2
          ++ (answerAll terms answers asked session).2.1.outlook terms answers
            (answerAll terms answers asked session).1 stream
        = session.outlook terms answers asked stream ∧
      (answerAll terms answers asked session).2.1.Sound terms ∧
      ∀ keepAlive buffer,
        (answerAll terms answers asked session).2.1 ≠ .summary keepAlive buffer := by
  fun_induction answerAll terms answers asked session with
  | case1 asked keepAlive buffer next asked' session more eq ih =>
    obtain ⟨said, kept⟩ :=
      outlook_answer answers asked pos keepAlive sound stream
    obtain ⟨later, kept', none⟩ := ih kept
    rw [eq] at later kept' none
    refine ⟨?_, kept', none⟩
    rw [← said, List.append_assoc]
    exact congrArg (_ ++ ·) later
  | case2 asked session other =>
    exact ⟨rfl, sound, other⟩

/-- A session that is given some octets that are there has the rest of its outlook left. -/
theorem outlook_feed (pos : 0 < terms.bodyChunk) {session : Session}
    (sound : session.Sound terms) (reading : session.isReading = true) {octets : Bytes}
    (some_ : octets ≠ []) (fits : octets.length ≤ session.room terms) (stream : Bytes) :
    (session.feed terms octets).2 ++
          (session.feed terms octets).1.outlook terms answers asked stream
        = session.outlook terms answers asked (octets ++ stream) ∧
      (session.feed terms octets).1.Sound terms := by
  have full : octets.isEmpty = false := List.isEmpty_eq_false_iff.mpr some_
  cases session with
  | head buffer =>
    rw [feed, full, outlook, ← List.append_assoc]
    refine outlook_advance answers asked pos ?_ stream
    rw [room] at fits
    rw [List.length_append]
    exact Nat.add_le_of_le_sub' (Nat.le_of_lt sound.2) fits
  | body keepAlive length pieces missing =>
    obtain ⟨left, whole⟩ := sound
    have most : octets.length ≤ missing := Nat.le_trans fits (Nat.min_le_left _ _)
    rw [feed, full, outlook, List.length_append]
    dsimp only
    -- the room is bounded by what is missing, so the last read ends where the body does
    by_cases last : missing ≤ octets.length
    · have exactly : octets.length = missing := Nat.le_antisymm most last
      have empty : ([] : Bytes).length ≤ terms.headCapacity := Nat.zero_le _
      obtain ⟨said, kept⟩ := outlook_proceed answers asked pos keepAlive empty stream
      rw [if_neg Bool.false_ne_true, if_pos last, if_pos (by omega), ← exactly, List.take_left,
        List.drop_left, List.append_assoc, said]
      refine ⟨?_, kept⟩
      rw [List.reverse_cons, List.flatten_append, List.flatten_singleton, List.nil_append,
        accept_effects]
    · rw [if_neg Bool.false_ne_true, if_neg last, outlook]
      refine ⟨?_, by omega, ?_⟩
      · have beyond : octets.take missing = octets := List.take_of_length_le most
        have none : octets.drop missing = [] := List.drop_of_length_le most
        have arrived : length - (missing - octets.length) + stream.length
            = length - missing + (octets.length + stream.length) := by omega
        rw [List.take_append, List.drop_append, beyond, none, List.reverse_cons,
          List.flatten_append, List.flatten_singleton, List.append_assoc, List.nil_append, arrived,
          List.nil_append]
        by_cases more : missing ≤ octets.length + stream.length
        · rw [if_pos more, if_pos (by omega)]
        · rw [if_neg more, if_neg (by omega)]
      · rw [List.reverse_cons, List.flatten_append, List.flatten_singleton, List.length_append]
        omega
  | summary => cases reading
  | closed => cases reading

theorem outlook_end {session : Session} (sound : session.Sound terms)
    (reading : session.isReading = true) :
    (session.feed terms []).2 = session.outlook terms answers asked [] := by
  cases session with
  | head buffer =>
    have nothing : front terms.headCapacity buffer = .nothing := by
      rw [front_eq, sound.1]
      exact if_neg (Nat.not_le_of_lt sound.2)
    rw [outlook, List.append_nil, transcript_of_nothing nothing]
    rfl
  | body keepAlive length pieces missing =>
    exact (if_neg (Nat.not_le_of_lt sound.1)).symm
  | summary => cases reading
  | closed => cases reading

theorem room_pos (pos : 0 < terms.bodyChunk) {session : Session} (sound : session.Sound terms)
    (reading : session.isReading = true) : 0 < session.room terms := by
  cases session with
  | head buffer => exact Nat.sub_pos_of_lt sound.2
  | body keepAlive length pieces missing => exact Nat.lt_min.mpr ⟨sound.1, pos⟩
  | summary => cases reading
  | closed => cases reading

/-! ## A whole connection -/

/-- **A session does what its outlook says**, however the stream is cut. -/
theorem serveFrom_eq_outlook (pos : 0 < terms.bodyChunk) {session : Session}
    (sound : session.Sound terms)
    (settled : ∀ keepAlive buffer, session ≠ .summary keepAlive buffer) (stream : Reads) :
    serveFrom terms answers asked session stream
      = session.outlook terms answers asked stream.flat := by
  fun_induction serveFrom terms answers asked session stream with
  | case1 asked session stream reading rest h =>
    -- a read into some room gets nothing only where nothing is left
    have past : stream.flat = [] :=
      Reads.flat_eq_nil_of_read (room_pos pos sound reading) (congrArg Prod.fst h)
    rw [past, outlook_end answers asked sound reading]
  | case2 asked session stream reading b bs rest h session' effects fed asked' session'' more eq
      ih =>
    -- one read moves octets from the stream into the session, and leaves the outlook as it is
    have cut := Reads.read_append_flat (session.room terms) stream
    have fits := Reads.length_read_le (session.room terms) stream
    rw [h] at cut fits
    obtain ⟨said, kept⟩ := outlook_feed answers asked pos sound reading
      (List.cons_ne_nil b bs) fits rest.flat
    rw [fed] at said kept
    obtain ⟨told, kept', none⟩ :=
      outlook_answerAll answers asked pos kept rest.flat
    rw [eq] at told kept' none
    rw [ih kept' none, ← cut, ← said, List.append_assoc]
    exact congrArg (effects ++ ·) told
  | case3 asked session stream past =>
    cases session with
    | closed => rfl
    | summary keepAlive buffer => exact absurd rfl (settled keepAlive buffer)
    | head buffer => exact absurd rfl past
    | body keepAlive length pieces missing => exact absurd rfl past

theorem start_settled (terms : Terms) (keepAlive : Bool) (buffer : Bytes) :
    (start terms).1 ≠ .summary keepAlive buffer := by
  intro waits
  have least := pending_advance terms []
  rw [← start, waits] at least
  exact Nat.not_succ_le_zero _ least

/-- **What a connection does is what the transcript of its stream says**, however the stream is
cut. -/
theorem serve_eq_transcript (pos : 0 < terms.bodyChunk) (stream : Reads) :
    serve terms answers stream = transcript terms.headCapacity answers 0 stream.flat := by
  have empty : ([] : Bytes).length ≤ terms.headCapacity := Nat.zero_le _
  obtain ⟨said, sound⟩ := outlook_advance answers 0 pos empty stream.flat
  have rest := serveFrom_eq_outlook answers 0 pos sound
    (start_settled terms) stream
  rw [← rest] at said
  exact said

/-- **It does not matter how a stream is cut**, nor how much of a body is read at once: a connection
does what the transcript of its stream says, request after request, and comes to an end. -/
theorem serve_depends_on_stream_alone (pos : 0 < terms.bodyChunk) (stream : Reads) :
    serve terms answers stream = transcript terms.headCapacity answers 0 stream.flat ∧
      ∀ (chunk : Nat) (other : Reads), 0 < chunk → other.flat = stream.flat →
        serve ⟨terms.headCapacity, chunk⟩ answers other = serve terms answers stream := by
  have said := serve_eq_transcript answers pos stream
  refine ⟨said, fun chunk other chunk_pos same ↦ ?_⟩
  rw [said, ← same]
  exact serve_eq_transcript answers chunk_pos other

/-- The beginning of a head that is longer than 64 octets. -/
def endless : Bytes := utf8 "GET /payments-summary HTTP/1.1\r\nHost: " ++ List.replicate 64 0x61

/-- A payment, a request for what is not there, and a head that does not end within 64 octets, with
cuts within the first head and within the payment's body. -/
theorem serve_cut_in_three :
    let stream : Reads := [utf8 "POST /payments HTTP/1.1\r\nContent-Le", utf8 "ngth: 2\r\n\r\n\x7b",
      utf8 "\x7dGET / HTTP/1.1\r\n\r\n" ++ endless]
    let answers : Answers := fun _ ↦ .ok []
    0 < 1 ∧
      (serve ⟨64, 1⟩ answers stream = transcript 64 answers 0 stream.flat ∧
        ∀ (chunk : Nat) (other : Reads), 0 < chunk → other.flat = stream.flat →
          serve ⟨64, chunk⟩ answers other = serve ⟨64, 1⟩ answers stream) ∧
      transcript 64 answers 0 stream.flat =
        [.begin ⟨"POST", "/payments", some 2, false⟩, .ingest (utf8 "\x7b\x7d") "\x7b\x7d",
          .respond ⟨200, true, none⟩, .begin ⟨"GET", "/", none, false⟩, .respond ⟨404, true, none⟩,
          .report (.bad (.oversizeHead 64)), .respond ⟨400, false, none⟩] := by
  intro stream answers
  refine ⟨by decide, serve_depends_on_stream_alone answers Nat.zero_lt_one stream, ?_⟩
  have payment : front 64 stream.flat = .request ⟨"POST", "/payments", some 2, false⟩
      (utf8 "\x7b\x7dGET / HTTP/1.1\r\n\r\n" ++ endless) := by decide +kernel
  have paid : deal answers 0 ⟨"POST", "/payments", some 2, false⟩
      (utf8 "\x7b\x7dGET / HTTP/1.1\r\n\r\n" ++ endless)
      = ⟨[.ingest (utf8 "\x7b\x7d") "\x7b\x7d", .respond ⟨200, true, none⟩], 0,
        some (utf8 "GET / HTTP/1.1\r\n\r\n" ++ endless)⟩ := by decide +kernel
  have absent : front 64 (utf8 "GET / HTTP/1.1\r\n\r\n" ++ endless)
      = .request ⟨"GET", "/", none, false⟩ endless := by decide +kernel
  have long : front 64 endless = .oversize := by decide +kernel
  have missed : deal answers 0 ⟨"GET", "/", none, false⟩ endless
      = ⟨[.respond ⟨404, true, none⟩], 0, some endless⟩ := rfl
  rw [transcript_of_kept payment paid, transcript_of_kept absent missed,
    transcript_of_oversize long]
  rfl

end Session

end PaymentRelay.Edge
