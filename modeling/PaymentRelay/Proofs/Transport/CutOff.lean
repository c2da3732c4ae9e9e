import PaymentRelay.Proofs.Peer.Inquiry
import PaymentRelay.Proofs.Processor.HangUp

/-!
# A response that is cut off is never taken for a complete one

Wherever a response is cut off, all that is made of it is that the stream ended too early: by a
single reading, by a call to a processor and by an inquiry to the sibling. The call fails and its
connection does not go back to the pool; the inquiry finds no summary.
-/

namespace PaymentRelay

namespace Peer.Inquiry

open Exchange (front)

/-- Nothing more comes from the sibling: it has hung up, or the connection has broken. -/
def Ended (events : List Event) : Prop := .hangUp ∈ events ∨ ∃ fault, .broken fault ∈ events

theorem ended_sent {failure : Option Transport.Fault} {events : List Event} :
    Ended (.sent failure :: events) ↔ Ended events := by
  simp [Ended]

theorem ended_deliver {octets : Bytes} {events : List Event} :
    Ended (.deliver octets :: events) ↔ Ended events := by
  simp [Ended]

/-- **An inquiry of less than a whole response** goes on, or nothing more comes and it reports that
the stream ended too early, unless it reports how the connection broke. -/
theorem run_of_unfinished {read : Bytes} {stage : Exchange.Stage}
    (holds : stage.Holds responseTerms read) (events : List Event)
    (short : front responseTerms.capacity (read ++ arriving events) = .unfinished) :
    (¬ Ended events ∧ ∃ stage', (reading stage).run events = .reading stage') ∨
      Ended events ∧ ∃ fault,
        (reading stage).run events = .answered (.error (.transport fault)) ∧
          (fault.kind = .unexpectedEnd ∨ .broken fault ∈ events) := by
  induction events generalizing read stage with
  | nil => exact .inl ⟨by simp [Ended], stage, rfl⟩
  | cons event events ih =>
    cases event with
    | sent failure =>
      rw [ended_sent]
      exact (ih holds short).imp_right fun ⟨ended, fault, ran, why⟩ ↦
        ⟨ended, fault, ran, why.imp_right (List.mem_cons_of_mem _)⟩
    | deliver octets =>
      have scratch : ∀ n, responseTerms.sink = .discard n → 0 < n := by simp [responseTerms]
      have holds : (Exchange.State.reading stage).Holds responseTerms read := holds
      have fed : (Exchange.absorb responseTerms (.reading stage) octets).1.Holds responseTerms
          (read ++ octets) := Exchange.holds_absorb scratch holds
      rw [arriving, ← List.append_assoc] at short
      have still := Exchange.front_of_prefix short (List.prefix_append _ _)
      have next : (reading stage).run (.deliver octets :: events)
          = (ofState (Exchange.absorb responseTerms (.reading stage) octets).1).run events := rfl
      rw [next]
      -- a reading that is over would have found something at the front
      rcases state : (Exchange.absorb responseTerms (.reading stage) octets).1
        with stage' | response | fault
      · rw [state] at fed
        rw [ended_deliver]
        exact (ih fed short).imp_right fun ⟨ended, fault, ran, why⟩ ↦
          ⟨ended, fault, ran, why.imp_right (List.mem_cons_of_mem _)⟩
      · rw [state] at fed
        obtain ⟨body, whole, -⟩ := fed
        rw [still] at whole
        cases whole
      · rw [state] at fed
        have failed : front _ _ = .failed fault := fed
        rw [still] at failed
        cases failed
    | hangUp =>
      refine .inr ⟨.inl List.mem_cons_self, _, run_answered _ events, .inl ?_⟩
      exact Exchange.kind_stage_ended responseTerms stage
    | broken fault =>
      exact .inr ⟨.inr ⟨fault, List.mem_cons_self⟩, fault, run_answered _ events,
        .inr List.mem_cons_self⟩

/-- All that an inquiry makes of less than a whole response is a fault, once nothing more comes. -/
theorem result?_of_unfinished (events : List Event)
    (short : front responseTerms.capacity (arriving events) = .unfinished) :
    (∀ result, (asking.run (.sent none :: events)).result? = some result →
        ∃ fault, result = .error (.transport fault) ∧
          (fault.kind = .unexpectedEnd ∨ .broken fault ∈ events)) ∧
      (Ended events → (asking.run (.sent none :: events)).result?.isSome = true) := by
  have begun : (Exchange.Stage.line []).Holds responseTerms [] := Exchange.holds_start responseTerms
  have next : asking.run (.sent none :: events) = (reading (.line [])).run events := rfl
  rw [next]
  rcases run_of_unfinished begun events short with ⟨none_, stage, ran⟩ | ⟨-, fault, ran, why⟩
  · rw [ran]
    exact ⟨nofun, fun some_ ↦ absurd some_ none_⟩
  · rw [ran]
    refine ⟨fun result told ↦ ⟨fault, ?_, why⟩, fun _ ↦ rfl⟩
    exact (Option.some.inj told).symm

end Peer.Inquiry

open Exchange (TakesAll readInto)

/-- **A response that is cut off is never taken for a complete one.** Let some reading need all
octets of a response, and let these octets be the first of it but not all.

* Every reading of them into a buffer of the same size fails, whatever becomes of the body, whatever
  the buffers have held and however they are cut: the stream has ended too early.
* Let a call to a processor have read some of them, let the others be unread, and let the connection
  have ended like that. Whatever else happens then, the pool never gets the connection, the call
  finishes with the fault of the connection if it finishes, once it is over nobody ever has the
  connection, and it has finished if it is not given up and has had more turns to read than octets
  were left.
* An inquiry to which the sibling sends them before it hangs up or the connection breaks finds no
  summary: it has failed once one of the two has happened, for the stream has ended too early, or as
  the connection broke. -/
theorem cut_off_never_complete {terms : Exchange.Terms} {response octets : Bytes}
    (takes : TakesAll terms response) (start : octets <+: response) (cut : octets ≠ response) :
    (∀ sink buffers stream, Reads.flat stream = octets →
        ∃ fault, (readInto ⟨terms.capacity, sink⟩ buffers stream).1 = .error fault ∧
          fault.kind = .unexpectedEnd) ∧
      (terms.capacity = Processor.responseTerms.capacity →
        ∀ (processor : Processor.Terms) (size : Nat) (before : List Processor.Client.Event)
          (a i : Nat) (call : Processor.Call) (stage : Exchange.Stage) (link : Processor.Link)
          (ending : Transport.Fault),
          let c := (Processor.Client.new processor size).run before
          c.calls[a]? = some call → call.stage = .reading i stage →
          c.links[i]? = some link → link.ending = some ending → ending.isMalformed = false →
          (Processor.Client.new processor size).heard a before ++ link.inbox = octets →
          ∀ events, i ∉ (c.run events).pool.idle ∧ ∃ call, (c.run events).calls[a]? = some call ∧
            (∀ outcome, call.stage = .finished outcome → outcome = .refused (.transport ending)) ∧
            (call.stage.isOver = true → i ∉ (c.run events).kept) ∧
            (.abandon a ∉ events → link.inbox.length < events.count (.read a) →
              call.stage = .finished (.refused (.transport ending)))) ∧
      (terms.capacity = Peer.responseTerms.capacity →
        ∀ events, Peer.Inquiry.arriving events = octets →
          (∀ result, (Peer.Inquiry.asking.run (.sent none :: events)).result? = some result →
            ∃ fault, result = .error (.transport fault) ∧
              (fault.kind = .unexpectedEnd ∨ .broken fault ∈ events)) ∧
          (.hangUp ∈ events ∨ (∃ fault, .broken fault ∈ events) →
            (Peer.Inquiry.asking.run (.sent none :: events)).result?.isSome = true)) := by
  have short := Exchange.front_of_cut takes start cut
  refine ⟨fun sink buffers stream ↦ Exchange.unexpectedEnd_of_cut takes start cut sink buffers,
    ?_, ?_⟩
  · rintro size processor poolSize before a i call stage link ending c there reads here ended
      network rfl events
    rw [size] at short
    exact (Processor.Client.fate_of_hangUp processor poolSize before there reads here ended short
      events).denied network
  · rintro size events rfl
    rw [size] at short
    exact Peer.Inquiry.result?_of_unfinished events short

/-- A response with a body of twelve octets. -/
def greeting : Bytes := utf8 "HTTP/1.1 200 OK\r\nContent-Length: 12\r\n\r\nhello, world"

/-- The same, cut off among the digits of its length. -/
def greetingCut : Bytes := utf8 "HTTP/1.1 200 OK\r\nContent-Length: 1"

/-- A call has read some of it, and the processor has sent the rest and hung up. -/
def hungUp : List Processor.Client.Event :=
  [.warmed, .call ⟨"a", .zero⟩ 0 0, .lease, .write 0 none, .deliver 0 (greetingCut.take 30),
    .read 0, .deliver 0 (greetingCut.drop 30), .hangUp 0 .endOfStream]

/-- What a single reading, a call and an inquiry make of the response that was cut off there. -/
theorem cut_off_within_length :
    let turns : List Processor.Client.Event := List.replicate 6 (.read 0)
    let answer : List Peer.Inquiry.Event := [.deliver greetingCut, .hangUp]
    TakesAll Processor.responseTerms greeting ∧ greetingCut <+: greeting ∧ greetingCut ≠ greeting ∧
      (∃ fault, (readInto ⟨1024, .collect⟩ ⟨[], []⟩ [greetingCut]).1 = .error fault ∧
        fault.kind = .unexpectedEnd) ∧
      (0 ∉ (((Processor.Client.new ⟨"localhost", 5⟩ 1).run hungUp).run turns).pool.idle ∧
        ∃ call, (((Processor.Client.new ⟨"localhost", 5⟩ 1).run hungUp).run turns).calls[0]?
            = some call ∧
          call.stage = .finished (.refused (.transport .endOfStream))) ∧
      (Peer.Inquiry.asking.run (.sent none :: answer)).result?.isSome = true := by
  intro turns answer
  have takes : TakesAll Processor.responseTerms greeting :=
    ⟨⟨[], []⟩, ⟨greeting, []⟩, [greeting], ⟨200, 12⟩, 35, by decide +kernel⟩
  have start : greetingCut <+: greeting := by decide +kernel
  have cut : greetingCut ≠ greeting := by decide +kernel
  obtain ⟨single, processor, sibling⟩ := cut_off_never_complete takes start cut
  let call : Processor.Call := ⟨⟨"a", .zero⟩, 0, .reading 0 (.block 200 (greetingCut.take 30))⟩
  let link : Processor.Link := ⟨greetingCut.drop 30, some .endOfStream, true,
    [Processor.Terms.request ⟨"localhost", 5⟩ ⟨⟨"a", .zero⟩, 0, .leased 0⟩]⟩
  have there : ((Processor.Client.new ⟨"localhost", 5⟩ 1).run hungUp).calls[0]? = some call := by
    decide +kernel
  have here : ((Processor.Client.new ⟨"localhost", 5⟩ 1).run hungUp).links[0]? = some link := by
    decide +kernel
  have read : (Processor.Client.new ⟨"localhost", 5⟩ 1).heard 0 hungUp ++ link.inbox
      = greetingCut := by
    decide +kernel
  obtain ⟨idle, call', there', -, -, isOver⟩ := processor rfl ⟨"localhost", 5⟩ 1 hungUp 0 0 call
    (.block 200 (greetingCut.take 30)) link .endOfStream there rfl here rfl rfl read turns
  have often : .abandon 0 ∉ turns ∧ link.inbox.length < turns.count (.read 0) := by
    decide +kernel
  obtain ⟨-, ended⟩ := sibling rfl answer (List.append_nil _)
  have last : .hangUp ∈ answer := List.mem_cons_of_mem _ List.mem_cons_self
  exact ⟨takes, start, cut, single .collect ⟨[], []⟩ [greetingCut] (List.append_nil _),
    ⟨idle, call', there', isOver often.1 often.2⟩, ended (.inl last)⟩

end PaymentRelay
