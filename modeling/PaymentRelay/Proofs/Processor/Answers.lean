import PaymentRelay.Proofs.Processor.Dialogue

/-!
# Every payment reads its own answer

If a processor answers each request with one framed response and writes nothing else, then a call
that is over has come to what the response to its own request says: the payment is taken exactly if
that response has arrived completely with status 200, it is refused with another status exactly if
the response has arrived completely with that one, and otherwise the call has failed. And nothing is
outstanding on a connection that is idle. So it is for any number of calls and connections, whatever
is given up, broken off, cut or dialed anew, and in whatever order.

Each step keeps the invariant of `Tidy`, and the invariant says all of this.
-/

namespace PaymentRelay.Processor.Watched

open Exchange (statusOf? Framed)

variable {script : Script} {w : Watched} {a : Nat}

/-! ## The invariant along a run -/

theorem Tidy.new (script : Script) (terms : Terms) (size : Nat) :
    (new terms size).Tidy script where
  kept := List.nodup_nil
  line := List.nodup_nil
  waiting _ mem := by cases mem
  due _ _ there := by cases there
  unmade _ _ := rfl
  idle _ mem := by cases mem
  calls _ _ there := by cases there
  posted _ _ _ place := by cases place
  once _ _ _ place _ := by cases place

/-- **Every step keeps the invariant**, as long as the processor only answers. -/
theorem Tidy.step (framed : ∀ i k, Framed responseTerms.capacity (script i k))
    (tidy : w.Tidy script) {event : Client.Event} (answering : w.Answering script event) :
    (w.step event).Tidy script := by
  cases event with
  | call payment requestedAt now => exact tidy.call payment requestedAt now
  | warmed => exact tidy.warmed
  | lease => exact tidy.lease
  | expire call => exact tidy.expire call
  | dialed call failure => exact tidy.dial call failure
  | replaced made => exact tidy.replace made
  | write call failure => exact tidy.write call failure
  | deliver link octets => exact tidy.deliver link octets answering
  | hangUp link ending => exact tidy.hangUp link ending
  | read call => exact tidy.read framed call
  | abandon call => exact tidy.abandon call

theorem Tidy.run (framed : ∀ i k, Framed responseTerms.capacity (script i k))
    (tidy : w.Tidy script) {events : List Client.Event} (lockstep : w.Lockstep script events) :
    (w.run events).Tidy script := by
  induction events generalizing w with
  | nil => exact tidy
  | cons event events ih =>
    obtain ⟨answering, lockstep⟩ := lockstep
    exact ih (tidy.step framed answering) lockstep

/-! ## What a call has come to -/

/-- The response to a call's own request has arrived completely, with a status. -/
def Answered (script : Script) (w : Watched) (a : Nat) (status : Status) : Prop :=
  ∃ i k, w.posted a = some (i, k) ∧ w.Received script i k ∧
    statusOf? (script i k) = some status

/-- An outcome is the one that the response to a call's own request says. -/
structure Reports (script : Script) (w : Watched) (a : Nat) (outcome : ProcessorOutcome) :
    Prop where
  taken : outcome = .taken ↔ w.Answered script a 200
  status : ∀ s, outcome = .refused (.status s) ↔ w.Answered script a s ∧ s ≠ 200

/-- A call has posted its request in a place if that is where it stands among the requests on a
connection. -/
def Posted (w : Watched) (a i k : Nat) : Prop :=
  ∃ call l, w.client.calls[a]? = some call ∧ w.client.links[i]? = some l ∧
    l.sent.reverse[k]? = some (w.client.terms.request call)

theorem Answered.unique {s s' : Status} (h : w.Answered script a s) (h' : w.Answered script a s') :
    s = s' := by
  obtain ⟨i, k, place, -, told⟩ := h
  obtain ⟨i', k', place', -, told'⟩ := h'
  rw [place] at place'
  cases place'
  rw [told] at told'
  exact Option.some.inj told'

theorem not_answered_of_cut {s : Status} (place : ∀ i k, w.posted a = some (i, k) →
    statusOf? (script i k) = none ∨ w.Cut script i k) : ¬ w.Answered script a s := by
  rintro ⟨i, k, here, received, told⟩
  rcases place i k here with none_ | ⟨-, -, -, missing⟩
  · rw [none_] at told
    cases told
  · exact missing received

theorem Settled.reports {outcome : ProcessorOutcome} (settled : w.Settled script a outcome) :
    w.Reports script a outcome := by
  rcases settled with ⟨i, k, answer, place, received, told, rfl⟩ | ⟨untold, place⟩
  · have answered : w.Answered script a answer.status := ⟨i, k, place, received, told⟩
    rw [outcomeOf]
    by_cases ok : answer.status = 200
    · rw [if_pos ok]
      rw [ok] at answered
      refine ⟨iff_of_true rfl answered, fun s ↦ iff_of_false ProcessorOutcome.noConfusion ?_⟩
      rintro ⟨other, ne⟩
      exact ne (other.unique answered)
    · rw [if_neg ok]
      refine ⟨iff_of_false ProcessorOutcome.noConfusion fun other ↦ ok (answered.unique other),
        fun s ↦ ?_⟩
      constructor
      · intro same
        cases same
        exact ⟨answered, ok⟩
      · rintro ⟨other, -⟩
        rw [answered.unique other]
  · have unanswered (s : Status) : ¬ w.Answered script a s := not_answered_of_cut place
    refine ⟨iff_of_false (fun taken ↦ ?_) (unanswered 200),
      fun s ↦ iff_of_false (fun refused ↦ ?_) fun answered ↦ unanswered s answered.1⟩
    · rw [taken] at untold
      exact untold
    · rw [refused] at untold
      exact untold

/-- **Every payment reads its own answer.** In a run in which the processor only answers requests,
on every connection that is idle all requests have been answered and all answers read; requests
stand where calls have posted them, no two in one place; and a call that is over reports what the
response to its own request says. The run is one of the client alone. -/
theorem each_call_reports_its_own_answer (script : Script)
    (framed : ∀ i k, Framed responseTerms.capacity (script i k)) (terms : Terms) (size : Nat)
    (events : List Client.Event) (lockstep : (new terms size).Lockstep script events) :
    let w := (new terms size).run events
    w.client = (Client.new terms size).run events ∧
    (∀ i ∈ w.client.pool.idle, w.Clean script i) ∧
    (∀ a i k, w.posted a = some (i, k) → w.Posted a i k) ∧
    (∀ a b place, w.posted a = some place → w.posted b = some place → a = b) ∧
    ∀ (a : Nat) (call : Call) (outcome : ProcessorOutcome), w.client.calls[a]? = some call →
      call.stage = .finished outcome → w.Reports script a outcome := by
  intro w
  have tidy : w.Tidy script := (Tidy.new script terms size).run framed lockstep
  refine ⟨run_client _ events, tidy.idle, tidy.posted, tidy.once, ?_⟩
  intro a call outcome there past
  have order := tidy.calls a call there
  rw [past] at order
  exact Settled.reports order

/-! ## Two calls on one connection -/

/-- A processor that takes the first payment on a connection and refuses the others. -/
def takesFirst : Script := fun _ k ↦
  if k = 0 then utf8 "HTTP/1.1 200 OK\r\n\r\n"
  else utf8 "HTTP/1.1 500 Internal Server Error\r\nContent-Length: 2\r\n\r\nno"

def onePool : Watched := new ⟨"localhost", 5⟩ 1

/-- Two calls want the same connection; each response comes in two pieces. -/
def twoCalls : List Client.Event :=
  let payment : Payment := ⟨"a", ⟨false, 1990, 2, by decide, by decide⟩⟩
  [.call payment 0 0, .call payment 1 0, .warmed, .lease, .write 0 none,
    .deliver 0 ((takesFirst 0 0).take 9), .read 0, .deliver 0 ((takesFirst 0 0).drop 9), .read 0,
    .lease, .write 1 none, .deliver 0 ((takesFirst 0 1).take 40), .read 1,
    .deliver 0 ((takesFirst 0 1).drop 40), .read 1]

theorem framed_takesFirst (i k : Nat) : Framed responseTerms.capacity (takesFirst i k) := by
  have taken : Framed responseTerms.capacity (takesFirst 0 0) :=
    ⟨15, by decide +kernel, by decide +kernel, by decide +kernel⟩
  have refused : Framed responseTerms.capacity (takesFirst 0 1) :=
    ⟨53, by decide +kernel, by decide +kernel, by decide +kernel⟩
  by_cases first : k = 0
  · rw [first]
    exact taken
  · rw [takesFirst, if_pos rfl] at taken
    rw [takesFirst, if_neg Nat.one_ne_zero] at refused
    rw [takesFirst, if_neg first]
    exact refused

theorem stages_twoCalls : (onePool.run twoCalls).client.calls.map (·.stage)
    = #[.finished .taken, .finished (.refused (.status 500))] := by
  decide +kernel

/-- Two calls share a connection. The response to the first says that the payment is taken, the one
to the second that it is not, and each call hears its own. -/
theorem two_calls_report_their_own_answers :
    (∀ i k, Framed responseTerms.capacity (takesFirst i k)) ∧
      onePool.Lockstep takesFirst twoCalls ∧
      (onePool.run twoCalls).Answered takesFirst 0 200 ∧
      (onePool.run twoCalls).Answered takesFirst 1 500 := by
  have lockstep : onePool.Lockstep takesFirst twoCalls := by decide +kernel
  obtain ⟨-, -, -, -, reports⟩ := each_call_reports_its_own_answer takesFirst framed_takesFirst
    ⟨"localhost", 5⟩ 1 twoCalls lockstep
  have past (a : Nat) (outcome : ProcessorOutcome)
      (h : ((onePool.run twoCalls).client.calls.map (·.stage))[a]? = some (.finished outcome)) :
      (onePool.run twoCalls).Reports takesFirst a outcome := by
    rw [Array.getElem?_map] at h
    obtain ⟨call, there, past⟩ := Option.map_eq_some_iff.mp h
    exact reports a call outcome there past
  rw [stages_twoCalls] at past
  refine ⟨framed_takesFirst, lockstep, ?_, ?_⟩
  · exact (past 0 .taken rfl).taken.mp rfl
  · exact (((past 1 (.refused (.status 500)) rfl).status 500).mp rfl).1

end PaymentRelay.Processor.Watched
