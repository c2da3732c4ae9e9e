import PaymentRelay.Peer.Client
import PaymentRelay.Proofs.Http.Front

/-!
# What an inquiry comes to

Whatever happens on the connection to the sibling, an inquiry finds a summary exactly if the octets
that came back before the sibling hung up or the connection broke begin with a whole response, with
status 200 and a summary as its body. How the octets were cut makes no difference, and neither does
what comes after them.
-/

namespace PaymentRelay.Peer

open Exchange (Whole front)

/-- Octets begin with a whole response that has status 200 and this summary as its body. -/
def Tells (octets : Bytes) (summary : Summary) : Prop :=
  ∃ body, Whole responseTerms.capacity octets 200 body ∧ Summary.read body = .ok summary

namespace Inquiry

/-- The octets that arrive until the sibling hangs up or the connection breaks. -/
def arriving : List Event → Bytes
  | [] => []
  | .deliver octets :: events => octets ++ arriving events
  | .hangUp :: _ | .broken _ :: _ => []
  | .sent _ :: events => arriving events

/-- The octets that come back from the sibling, if the request was written to it. -/
def reply? : List Event → Option Bytes
  | [] => none
  | .sent none :: events => some (arriving events)
  | .sent (some _) :: _ => none
  | .deliver _ :: events | .hangUp :: events | .broken _ :: events => reply? events

variable {read : Bytes} {summary : Summary}

@[simp] theorem run_answered (result : Except PeerFault Summary) (events : List Event) :
    (answered result).run events = answered result := by
  induction events with
  | nil => rfl
  | cons event events ih => exact ih

/-! ## A reading of the response -/

theorem summaryOf_eq_ok_iff (response : Exchange.Complete) :
    summaryOf response = .ok summary ↔
      response.answer.status = 200 ∧ Summary.read response.body = .ok summary := by
  unfold summaryOf
  split
  · next ok => cases Summary.read response.body <;> simp [Except.mapError, ok]
  · next other => simp [other]

theorem tells_iff : Tells read summary ↔
    ∃ answer body, front responseTerms.capacity read = .response answer body ∧
      answer.status = 200 ∧ Summary.read body = .ok summary := by
  constructor
  · rintro ⟨body, whole, told⟩
    exact ⟨⟨200, body.length⟩, body, Exchange.front_of_whole whole, rfl, told⟩
  · rintro ⟨answer, body, here, ok, told⟩
    exact ⟨body, ok ▸ Exchange.whole_of_front here, told⟩

theorem not_tells_of_unfinished (here : front responseTerms.capacity read = .unfinished) :
    ¬ Tells read summary := by
  simp [tells_iff, here]

/-- Where a reading has come to an end, it has found the summary that the octets tell. -/
theorem result?_ofState {state : Exchange.State} (holds : state.Holds responseTerms read) :
    (ofState state).result? = some (.ok summary) ↔ Tells read summary := by
  rw [tells_iff]
  cases state with
  | reading stage =>
    have here := Exchange.front_of_holds holds
    simp [ofState, result?, here]
  | complete response =>
    obtain ⟨body, here, same⟩ := holds
    cases same rfl
    simp [ofState, result?, summaryOf_eq_ok_iff, here]
  | failed fault =>
    have here : front responseTerms.capacity read = .failed fault := holds
    simp [ofState, result?, here]

/-- **However the response arrives**, the inquiry finds the summary that it tells. -/
theorem result?_run_ofState {state : Exchange.State} (holds : state.Holds responseTerms read)
    (events : List Event) :
    ((ofState state).run events).result? = some (.ok summary) ↔
      Tells (read ++ arriving events) summary := by
  induction events generalizing state read with
  | nil =>
    rw [arriving, List.append_nil]
    exact result?_ofState holds
  | cons event events ih =>
    cases state with
    | reading stage =>
      cases event with
      | sent failure => exact ih holds
      | deliver octets =>
        have fed : (Exchange.absorb responseTerms (.reading stage) octets).1.Holds responseTerms
            (read ++ octets) := Exchange.holds_absorb (by simp [responseTerms]) holds
        rw [arriving, ← List.append_assoc]
        exact ih fed
      | hangUp =>
        -- the sibling has hung up before the response was whole
        have ended : (ofState (.reading stage)).run (.hangUp :: events)
            = answered (.error (.transport (stage.ended responseTerms))) := run_answered _ events
        rw [ended, arriving, List.append_nil]
        simp [result?, not_tells_of_unfinished (Exchange.front_of_holds holds)]
      | broken fault =>
        have ended : (ofState (.reading stage)).run (.broken fault :: events)
            = answered (.error (.transport fault)) := run_answered _ events
        rw [ended, arriving, List.append_nil]
        simp [result?, not_tells_of_unfinished (Exchange.front_of_holds holds)]
    | complete response =>
      have ended : (ofState (.complete response)).run (event :: events)
          = ofState (.complete response) := run_answered _ _
      rw [ended]
      exact result?_ofState (holds.append_of_complete _)
    | failed fault =>
      have ended : (ofState (.failed fault)).run (event :: events) = ofState (.failed fault) :=
        run_answered _ _
      rw [ended]
      exact result?_ofState (holds.append_of_failed _)

/-! ## The whole inquiry -/

/-- **An inquiry finds a summary** exactly if the sibling's reply tells it. -/
theorem result?_run_asking (events : List Event) :
    (asking.run events).result? = some (.ok summary) ↔
      ∃ octets, reply? events = some octets ∧ Tells octets summary := by
  induction events with
  | nil => simp [reply?, run, result?]
  | cons event events ih =>
    cases event with
    | sent failure =>
      cases failure with
      | none =>
        simp only [reply?, Option.some.injEq, exists_eq_left']
        exact result?_run_ofState (Exchange.holds_start responseTerms) events
      | some fault =>
        have ended : asking.run (.sent (some fault) :: events)
            = answered (.error (.transport fault)) := run_answered _ events
        simp [ended, reply?, result?]
    | deliver octets => exact ih
    | hangUp => exact ih
    | broken fault => exact ih

end Inquiry

end PaymentRelay.Peer
