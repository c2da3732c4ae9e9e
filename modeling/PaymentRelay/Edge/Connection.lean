import PaymentRelay.Bytes.Reads
import PaymentRelay.Edge.Session

/-!
# A connection from beginning to end

A session run over a stream that is there as a whole, with the summaries that it will ask for given
by the order in which it asks. What is done for the client is then one list of effects, and two ways
in which the same octets may arrive can be compared.

Between two reads a session may ask for several summaries, one after the other, since several
requests may lie in its buffer. Each time the buffer has become shorter; that is `pending_answer`,
and it is why the answering ends.
-/

namespace PaymentRelay.Edge.Session

/-- What the summaries come to, by the order in which they are asked for. -/
abbrev Answers := Nat → Except RequestFault Bytes

/-- How much may be left to do without another read, once a summary is there. -/
def pending : Session → Nat
  | .summary _ buffer => buffer.length + 1
  | _ => 0

theorem Outcome.eq_closed_of_after {keepAlive : Bool} {rest : Bytes} {session : Session}
    (h : Outcome.after keepAlive rest = .waits session) : session = .closed := by
  unfold Outcome.after at h
  split at h <;> cases h
  rfl

theorem pending_onHead {terms : Terms} {head : RequestHead} {rest : Bytes} {session : Session}
    (h : (onHead terms head rest).1 = .waits session) : session.pending ≤ rest.length + 1 := by
  unfold onHead at h
  split at h
  · split at h
    · cases h
      exact Nat.zero_le _
    split at h
    · cases h
      exact Nat.zero_le _
    unfold onBody at h
    split at h
    · rw [Outcome.eq_closed_of_after h]
      exact Nat.zero_le _
    split at h <;> cases h <;> exact Nat.zero_le _
  · cases h
    exact Nat.le_refl _
  · rw [Outcome.eq_closed_of_after h]
    exact Nat.zero_le _

theorem pending_request {terms : Terms} {buffer : Bytes} {session : Session}
    (h : (request terms buffer).1 = .waits session) : session.pending ≤ buffer.length := by
  unfold request at h
  split at h
  · split at h <;> cases h <;> exact Nat.zero_le _
  · next i found =>
    have within : i + Header.terminator.length ≤ buffer.length := Bytes.find?_add_le found
    have terminator_pos : 0 < Header.terminator.length := by decide
    split at h
    · cases h
      exact Nat.zero_le _
    · have := pending_onHead h
      rw [List.length_drop] at this
      omega

theorem pending_advance (terms : Terms) (buffer : Bytes) :
    (advance terms buffer).1.pending ≤ buffer.length := by
  fun_induction advance terms buffer with
  | case1 buffer session effects h => exact pending_request (by rw [h])
  | case2 buffer rest effects h session more eq ih =>
    rw [eq] at ih
    exact Nat.le_trans ih (Nat.le_of_lt (request_served h))

theorem pending_proceed (terms : Terms) (keepAlive : Bool) (rest : Bytes) :
    (proceed terms keepAlive rest).1.pending ≤ rest.length := by
  unfold proceed
  split
  · next h =>
    rw [Outcome.eq_closed_of_after h]
    exact Nat.zero_le _
  · next h =>
    rw [← Outcome.after_eq_served h]
    exact pending_advance terms rest

/-- A session that has been told its summary has less left to do. -/
theorem pending_answer (terms : Terms) (keepAlive : Bool) (buffer : Bytes)
    (result : Except RequestFault Bytes) :
    (answer terms (.summary keepAlive buffer) result).1.pending
      < (Session.summary keepAlive buffer).pending := by
  unfold answer
  split
  · next h =>
    split
    · cases h
      exact Nat.lt_succ_of_le (pending_proceed terms _ _)
    · exact Nat.succ_pos _
  · next h => exact absurd rfl (h _ _)

/-- Tells a session the summaries that it asks for before it reads again; `asked` were asked for
before. Returns how many have been asked for afterwards. -/
def answerAll (terms : Terms) (answers : Answers) (asked : Nat) (session : Session) :
    Nat × Session × List Effect :=
  match session with
  | .summary keepAlive buffer =>
    let next := answer terms (.summary keepAlive buffer) (answers asked)
    let (asked, session, more) := answerAll terms answers (asked + 1) next.1
    (asked, session, next.2 ++ more)
  | session => (asked, session, [])
termination_by session.pending
decreasing_by exact pending_answer terms keepAlive buffer (answers asked)

/-- What is done for a client from here on, until the session is over. -/
def serveFrom (terms : Terms) (answers : Answers) (asked : Nat) (session : Session)
    (stream : Reads) : List Effect :=
  if session.isReading then
    match _h : stream.read (session.room terms) with
    | ([], _) => (session.feed terms []).2
    | (b :: bs, rest) =>
      let (session, effects) := session.feed terms (b :: bs)
      let (asked, session, more) := answerAll terms answers asked session
      effects ++ more ++ serveFrom terms answers asked session rest
  else []
termination_by stream.flat.length
decreasing_by exact Reads.read_shortens _h

/-- What is done for a client whose connection delivers this stream. -/
def serve (terms : Terms) (answers : Answers) (stream : Reads) : List Effect :=
  let (session, effects) := start terms
  effects ++ serveFrom terms answers 0 session stream

end PaymentRelay.Edge.Session
