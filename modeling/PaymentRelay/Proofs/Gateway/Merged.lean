import PaymentRelay.Gateway.Summaries
import PaymentRelay.Proofs.Gateway.Turns
import PaymentRelay.Proofs.Peer.Inquiry

/-!
# Merged summaries

A merged summary goes on while other things happen at the gateway: it begins, the sibling is asked
and does whatever it does, and when the inquiry is over the halves are put together. What comes of
it is the local half and the sibling's together if the sibling has told a summary, and a fault
otherwise; a fault is answered with status 500 and nothing else. Either way main has been found to
be up when it is over. Apart from that the gateway is what the other events have made of it.
-/

namespace PaymentRelay

/-- A merged summary that is under way. -/
structure Merging (α : Type) where
  gateway : Gateway α
  localHalf : Summary
  inquiry : Peer.Inquiry

namespace Merging

variable {α : Type} [Parcel α]

/-- What happens meanwhile. -/
inductive Event (α : Type) where
  /-- Something happens on the connection to the sibling. -/
  | peer (event : Peer.Inquiry.Event)
  /-- Something else happens at the gateway. -/
  | other (event : Gateway.Event α)

/-- What happens on the connection to the sibling. -/
def Event.peer? : Event α → Option Peer.Inquiry.Event
  | .peer event => some event
  | .other _ => none

/-- What else happens at the gateway. -/
def Event.other? : Event α → Option (Gateway.Event α)
  | .peer _ => none
  | .other event => some event

/-- The public asks, and the sibling is about to be asked. -/
def begin (g : Gateway α) (w : Window) : Merging α :=
  ⟨(g.beginMerged w).1, (g.beginMerged w).2, .asking⟩

def step (m : Merging α) : Event α → Merging α
  | .peer event => { m with inquiry := m.inquiry.step event }
  | .other event => { m with gateway := (m.gateway.step event).1 }

def run (m : Merging α) (events : List (Event α)) : Merging α := events.foldl step m

/-- The gateway once the summary is there or refused, and what came of it. -/
def ended? (m : Merging α) : Option (Gateway α × Except PeerFault Summary) :=
  m.inquiry.result?.map fun result ↦ m.gateway.endMerged m.localHalf (some result)

variable {m : Merging α}

/-! ## What goes on -/

theorem run_inquiry (m : Merging α) (events : List (Event α)) :
    (m.run events).inquiry = m.inquiry.run (events.filterMap Event.peer?) := by
  induction events generalizing m with
  | nil => rfl
  | cons event events ih => cases event <;> exact ih _

theorem run_gateway (m : Merging α) (events : List (Event α)) :
    (m.run events).gateway = (m.gateway.run (events.filterMap Event.other?)).1 := by
  induction events generalizing m with
  | nil => rfl
  | cons event events ih => cases event <;> exact ih _

theorem run_localHalf (m : Merging α) (events : List (Event α)) :
    (m.run events).localHalf = m.localHalf := by
  induction events generalizing m with
  | nil => rfl
  | cons event events ih => cases event <;> exact ih _

end Merging

namespace Gateway

variable {α : Type} [Parcel α]

@[simp] theorem ledger_markUp (g : Gateway α) (source : Source) :
    (g.step (.markUp source)).1.ledger = g.ledger := by
  rw [step, setMonitor_eq]

@[simp] theorem queue_markUp (g : Gateway α) (source : Source) :
    (g.step (.markUp source)).1.queue = g.queue := by
  rw [step, setMonitor_eq]

theorem main_markUp (g : Gateway α) :
    (g.step (.markUp .main)).1.health.main = g.health.main.markUp := by
  rw [step, setMonitor_eq]
  rfl

theorem mergeHalves_eq_ok_iff {localHalf total : Summary} {result : Except PeerFault Summary} :
    mergeHalves localHalf (some result) = .ok total ↔
      ∃ remote, result = .ok remote ∧ total = localHalf.merge remote := by
  cases result with
  | error fault => simp [mergeHalves, Except.map]
  | ok remote => simp [mergeHalves, Except.map, eq_comm]

/-- **A failing sibling is never passed off as a merged total.** A merged summary of a window is
asked for, and the sibling and the rest of the gateway do whatever they do. If it comes to an end,
then with a total exactly if the sibling has delivered a whole response with status 200 that tells a
summary, and then the total is the local summary and that one merged; in every other case with a
fault, which a session answers with one response, status 500, no body and the connection closed. And
main is up without a deadline, and the gateway is what the other events make of it if main is found
to be up before and after them, which changes neither the ledger nor the retry queue. -/
theorem merged_total_is_whole (g : Gateway α) (w : Window) (history : List (Merging.Event α))
    {after : Gateway α} {result : Except PeerFault Summary}
    (done : ((Merging.begin g w).run history).ended? = some (after, result)) :
    (∀ total, result = .ok total ↔ ∃ octets remote,
        Peer.Inquiry.reply? (history.filterMap Merging.Event.peer?) = some octets ∧
        Peer.Tells octets remote ∧ total = (g.localSummary w).merge remote) ∧
      (∀ fault, result = .error fault → ∀ terms keepAlive rest,
        Edge.Session.answer terms (.summary keepAlive rest) (tidings result)
          = (.closed, [.report (.peer fault), .respond ⟨500, false, none⟩])) ∧
      Edge.Reply.write ⟨500, false, none⟩ = utf8
        "HTTP/1.1 500 Internal Server Error\r\nContent-Length: 0\r\nConnection: close\r\n\r\n" ∧
      (after.health.main.isUp = true ∧ after.health.main.deadline = none) ∧
      after = (g.run (.markUp .main ::
        history.filterMap Merging.Event.other? ++ [.markUp .main])).1 ∧
      ∀ h : Gateway α, (h.step (.markUp .main)).1.ledger = h.ledger ∧
        (h.step (.markUp .main)).1.queue = h.queue := by
  obtain ⟨found, ended, same⟩ := Option.map_eq_some_iff.mp done
  rw [endMerged, Merging.run_gateway, Merging.run_localHalf, Prod.mk.injEq] at same
  rw [Merging.run_inquiry] at ended
  obtain ⟨rfl, rfl⟩ := same
  have half : (Merging.begin g w).localHalf = g.localSummary w := by
    simp [Merging.begin, beginMerged, localSummary]
  refine ⟨fun total ↦ ?_, fun fault failed terms keepAlive rest ↦ ?_, by decide +kernel, ?_, ?_,
    fun h ↦ ⟨ledger_markUp h _, queue_markUp h _⟩⟩
  · rw [mergeHalves_eq_ok_iff, half]
    -- what the inquiry found is the summary that the sibling told, if it told one
    have told (remote : Summary) : found = .ok remote ↔ ∃ octets,
        Peer.Inquiry.reply? (history.filterMap Merging.Event.peer?) = some octets ∧
        Peer.Tells octets remote := by
      rw [← Peer.Inquiry.result?_run_asking, ← Option.some_inj, ← ended]
      rfl
    simp only [told]
    constructor
    · rintro ⟨remote, ⟨octets, came, tells⟩, rfl⟩
      exact ⟨octets, remote, came, tells, rfl⟩
    · rintro ⟨octets, remote, came, tells, rfl⟩
      exact ⟨remote, ⟨octets, came, tells⟩, rfl⟩
  · rw [failed]
    rfl
  · rw [main_markUp]
    exact ⟨rfl, rfl⟩
  · rw [List.cons_append, run_cons, run_append]
    rfl

/-- The sibling's reply comes in two parts, and meanwhile a payload is handed in: the total is what
the sibling told, three payments, and none of this gateway's. -/
theorem merged_total_of_three_payments :
    let g : Gateway String := new ⟨false, 1, 1, 5⟩
    let w : Window := ⟨⟨0, 0⟩, ⟨60, 0⟩⟩
    let head := utf8 "HTTP/1.1 200 OK\r\nContent-Length: 97\r\n\r\n"
    let body := utf8 ("\x7b\"default\":\x7b\"totalRequests\":3,\"totalAmount\":5.50\x7d," ++
      "\"fallback\":\x7b\"totalRequests\":0,\"totalAmount\":0\x7d\x7d")
    let history : List (Merging.Event String) := [.peer (.sent none),
      .peer (.deliver (head ++ body.take 20)), .other (.ingest "one"),
      .peer (.deliver (body.drop 20))]
    ∃ after total, ((Merging.begin g w).run history).ended? = some (after, .ok total) ∧
      total.main.requests = 3 ∧ after.health.main.isUp = true := by
  intro g w head body history
  let remote : Summary := ⟨.upTo 3 ⟨false, 550, 2, by decide, by decide⟩, .zero⟩
  have whole : Exchange.Whole Peer.responseTerms.capacity (head ++ body) 200 body :=
    ⟨35, by decide +kernel, by decide, by decide +kernel, by decide +kernel, by decide +kernel⟩
  have tells : Peer.Tells (head ++ body) remote := ⟨body, whole, by decide +kernel⟩
  have came :
      Peer.Inquiry.reply? (history.filterMap Merging.Event.peer?) = some (head ++ body) := by
    decide +kernel
  have ended := (Peer.Inquiry.result?_run_asking _).mpr ⟨_, came, tells⟩
  obtain ⟨⟨after, result⟩, done⟩ :
      ∃ ended, ((Merging.begin g w).run history).ended? = some ended := by
    rw [Merging.ended?, Merging.run_inquiry]
    exact ⟨_, congrArg (Option.map _) ended⟩
  obtain ⟨ok_iff, -, -, ⟨up, -⟩, -⟩ := merged_total_is_whole g w history done
  have total := (ok_iff _).mpr ⟨_, _, came, tells, rfl⟩
  exact ⟨after, _, total ▸ done, by decide +kernel, up⟩

end Gateway

end PaymentRelay
