import Mathlib.Data.List.Induction
import Mathlib.Data.List.Nodup
import PaymentRelay.Proofs.Gateway.Wired

/-!
# The ledger agrees with the wire

Each record of the ledger stands for one call of a processor that has succeeded, and the request of
that call stands on a connection to that processor with the record's amount and its millisecond. The
gateway does not look at the connection when it makes the record: it has kept the payment and the
instant while the call was under way, and it hears nothing but that the processor has taken the
payment.

`Agrees` is why this is enough. While a task waits, its ticket names a call of the right client with
the same payment and the same instant; no two tasks have the same ticket, and a ticket is counted
only when its task has heard of success. A call begins under a number that no call had before, and
whatever else happens in between, neither what it is for nor how it ended changes.
-/

namespace PaymentRelay

open Processor (Watched)

/-! ## What is on the wire -/

theorem Instant.toMillis_ofMillis (t : Millis) : (Instant.ofMillis t).toMillis = t := by
  have parts : t / 1000 * 1000 + t % 1000 = t := Int.ediv_mul_add_emod t 1000
  have fraction : ((t % 1000).toNat : Int) = t % 1000 :=
    Int.toNat_of_nonneg (Int.emod_nonneg t (by decide))
  rw [Instant.ofMillis, Instant.toMillis]
  dsimp only
  rw [Nat.mul_div_cancel _ (by decide), fraction]
  exact parts

/-- A request to process a payment, whose body has these for its identifier, its amount and the
instant of the request. -/
def Processor.IsRequestFor (host : String) (request : Bytes) (payment : Payment)
    (requestedAt : Millis) : Prop :=
  ∃ (instant : Instant) (body : Bytes),
    instant.toMillis = requestedAt ∧ instant.nanos < Instant.nanosPerSecond ∧
    body = utf8 "\x7b\"correlationId\":\"" ++ utf8 payment.correlationId ++ utf8 "\",\"amount\":" ++
      payment.amount.render ++ utf8 ",\"requestedAt\":\"" ++ Rfc3339.writeMillis instant ++
      utf8 "\"\x7d" ∧
    request = utf8 (Request.postStart "/payments" host) ++ Numeral.ofNat body.length ++
      Header.terminator ++ body

theorem Processor.isRequestFor_request (terms : Processor.Terms) (call : Processor.Call) :
    IsRequestFor terms.host (terms.request call) call.payment call.requestedAt := by
  refine ⟨Instant.ofMillis call.requestedAt, call.payment.body call.requestedAt,
    Instant.toMillis_ofMillis _, ?_, rfl, ?_⟩
  · have small : call.requestedAt % 1000 < 1000 := Int.emod_lt_of_pos _ (by decide)
    rw [Instant.ofMillis, Instant.nanosPerSecond]
    dsimp only
    omega
  · simp [Processor.Terms.request, Request.post]

namespace Wired

variable {w w' : Wired} {ticket : Ticket}

/-! ## Calls go on, and what they are for stays -/

/-- What is to be in the ledger for a call. -/
def record? (w : Wired) (ticket : Ticket) : Option Record :=
  (w.call? ticket).map fun call ↦ ⟨ticket.1, call.requestedAt, call.payment.amount⟩

/-- The calls of `w'` are those of `w` at a later time, and there may be more. -/
def Onward (w w' : Wired) : Prop :=
  ∀ ticket call, w.call? ticket = some call → ∃ stage, w'.call? ticket = some { call with stage } ∧
    (call.stage.isOver = true → stage = call.stage)

theorem Onward.refl (w : Wired) : Onward w w := fun _ call there ↦ ⟨call.stage, there, fun _ ↦ rfl⟩

theorem Onward.record? (onward : Onward w w') {call : Processor.Call}
    (there : w.call? ticket = some call) : w'.record? ticket = w.record? ticket := by
  obtain ⟨stage, there', -⟩ := onward ticket call there
  rw [Wired.record?, Wired.record?, there, there']
  rfl

theorem onward_advance {source : Source} (filed : (w.clients.get source).Filed)
    (event : Processor.Client.Event) : Onward w (w.advance source event) := by
  intro ticket call there
  by_cases own : ticket.1 = source
  · have later := Processor.Client.later_step (w.clients.get source).client event
    rw [call?, own] at there
    rw [call?, own, advance, PerSource.get_set_self]
    obtain ⟨stage, there'⟩ := later.calls _ call there
    refine ⟨stage, there', fun ending ↦ ?_⟩
    have same := (filed.stride event).calls_of_isOver there ending
    exact congrArg Processor.Call.stage (Option.some.inj (there'.symm.trans same))
  · refine ⟨call.stage, ?_, fun _ ↦ rfl⟩
    rw [call?, advance, PerSource.get_set_of_ne _ _ own]
    exact there

/-! ## The invariant -/

/-- A call is the one that the gateway has begun. -/
structure Carries (w : Wired) (ticket : Ticket) (call : Gateway.Call String) : Prop where
  source : ticket.1 = call.source
  fits : ∃ c, w.call? ticket = some c ∧ c.payment = call.payment ∧ c.requestedAt = call.requestedAt
  uncounted : ticket ∉ w.taken

/-- **The invariant.** -/
structure Agrees (w : Wired) : Prop where
  filed : ∀ source, (w.clients.get source).Filed
  /-- A task waits for the call with its ticket. -/
  carried : ∀ task call, w.gateway.waitsFor task = some call →
    ∃ ticket, w.tickets task = some ticket ∧ w.Carries ticket call
  /-- No two tasks wait for one call. -/
  apart : ∀ task task' ticket, w.gateway.waitsFor task ≠ none → w.gateway.waitsFor task' ≠ none →
    w.tickets task = some ticket → w.tickets task' = some ticket → task = task'
  /-- Only successful calls are counted. -/
  taken : ∀ ticket ∈ w.taken, ∃ call, w.call? ticket = some call ∧ call.stage = .finished .taken
  nodup : w.taken.Nodup
  /-- The ledger has the records of the calls that are counted. -/
  books : w.gateway.ledger.records.Perm (w.taken.filterMap w.record?)

theorem agrees_new (terms : Gateway.Terms) (clients : PerSource (Processor.Terms × Nat)) :
    (new terms clients).Agrees where
  filed source := by cases source <;> exact Watched.Filed.new _ _
  carried _ _ waits := by cases waits
  apart _ _ _ waits := absurd rfl waits
  taken _ mem := by cases mem
  nodup := List.nodup_nil
  books := List.Perm.refl _

theorem Agrees.onward (agrees : w.Agrees) (gateway : w'.gateway = w.gateway)
    (tickets : w'.tickets = w.tickets) (taken : w'.taken = w.taken) (onward : Onward w w')
    (filed : ∀ source, (w'.clients.get source).Filed) : w'.Agrees := by
  refine ⟨filed, fun task call waits ↦ ?_, ?_, fun ticket mem ↦ ?_, taken ▸ agrees.nodup, ?_⟩
  · rw [gateway] at waits
    obtain ⟨ticket, mine, source, ⟨c, there, fits⟩, uncounted⟩ := agrees.carried task call waits
    obtain ⟨stage, there', -⟩ := onward ticket c there
    exact ⟨ticket, tickets ▸ mine, source, ⟨_, there', fits⟩, taken ▸ uncounted⟩
  · rw [gateway, tickets]
    exact agrees.apart
  · rw [taken] at mem
    obtain ⟨call, there, past⟩ := agrees.taken ticket mem
    obtain ⟨stage, there', still⟩ := onward ticket call there
    exact ⟨_, there', (still (by rw [past]; rfl)).trans past⟩
  · have same : w.taken.filterMap w'.record? = w.taken.filterMap w.record? := by
      refine List.filterMap_congr fun ticket mem ↦ ?_
      obtain ⟨call, there, -⟩ := agrees.taken ticket mem
      exact onward.record? there
    rw [gateway, taken, same]
    exact agrees.books

theorem waiting_of_imp {g g' : Gateway String} {task : Nat}
    (waits : ∀ call, g'.waitsFor task = some call → g.waitsFor task = some call)
    (now : g'.waitsFor task ≠ none) : g.waitsFor task ≠ none := by
  obtain ⟨call, some_⟩ := Option.ne_none_iff_exists'.mp now
  simp [waits call some_]

/-- The gateway moves and begins no call: its tasks wait for nothing new, and what is counted is in
the ledger. -/
theorem Agrees.move (agrees : w.Agrees) {g : Gateway String} {taken : List Ticket}
    (waits : ∀ task call, g.waitsFor task = some call → w.gateway.waitsFor task = some call)
    (free : ∀ task ticket, g.waitsFor task ≠ none → w.tickets task = some ticket →
      ticket ∉ w.taken → ticket ∉ taken)
    (past : ∀ ticket ∈ taken, ∃ call, w.call? ticket = some call ∧ call.stage = .finished .taken)
    (nodup : taken.Nodup) (books : g.ledger.records.Perm (taken.filterMap w.record?)) :
    Agrees { w with gateway := g, taken } := by
  refine ⟨agrees.filed, fun task call now ↦ ?_, fun task task' ticket now now' ↦ ?_, past, nodup,
    books⟩
  · obtain ⟨ticket, mine, source, fits, uncounted⟩ := agrees.carried task call (waits task call now)
    refine ⟨ticket, mine, source, fits, free task ticket ?_ mine uncounted⟩
    rw [now]
    exact Option.some_ne_none call
  · exact agrees.apart task task' ticket (waiting_of_imp (waits task) now)
      (waiting_of_imp (waits task') now')

/-! ## Each step keeps the invariant -/

theorem Agrees.filed_advance (agrees : w.Agrees) (source : Source)
    (event : Processor.Client.Event) (s : Source) :
    ((w.advance source event).clients.get s).Filed := by
  by_cases own : s = source
  · rw [own, advance, PerSource.get_set_self]
    exact (agrees.filed source).step event
  · rw [advance, PerSource.get_set_of_ne _ _ own]
    exact agrees.filed s

theorem Agrees.advance (agrees : w.Agrees) (source : Source) (event : Processor.Client.Event) :
    (w.advance source event).Agrees :=
  agrees.onward rfl rfl rfl (onward_advance (agrees.filed source) event)
    (agrees.filed_advance source event)

theorem Agrees.perform_idle (agrees : w.Agrees) {event : Gateway.Event String}
    (unanswered : event.isAnswer = false) (idle : Gateway.begun (w.gateway.step event).2 = []) :
    Agrees { w with
      gateway := (w.gateway.step event).1
      taken := if event = .purge then [] else w.taken } := by
  have waits : ∀ task call, (w.gateway.step event).1.waitsFor task = some call →
      w.gateway.waitsFor task = some call := by
    intro task call now
    rcases Gateway.waitsFor_step now with before | begins
    · exact before
    · rw [begins] at idle
      cases idle
  by_cases purges : event = .purge
  · subst purges
    exact agrees.move waits (fun _ _ _ _ _ ↦ List.not_mem_nil) (fun _ mem ↦ by cases mem)
      List.nodup_nil (List.Perm.refl _)
  · have kept : (w.gateway.step event).1.ledger = w.gateway.ledger :=
      Gateway.ledger_eq_of_unanswered purges fun task ↦
        Gateway.Event.ne_of_isAnswer unanswered task _
    rw [if_neg purges]
    refine agrees.move waits (fun _ _ _ _ free ↦ free) agrees.taken agrees.nodup ?_
    rw [kept]
    exact agrees.books

theorem Agrees.unissued (agrees : w.Agrees) (unbegun : w.call? ticket = none) :
    ticket ∉ w.taken ∧ ∀ task, w.gateway.waitsFor task ≠ none → w.tickets task ≠ some ticket := by
  constructor
  · intro mem
    obtain ⟨c, there, -⟩ := agrees.taken ticket mem
    simp [unbegun] at there
  · intro task waits mine
    obtain ⟨call, some_⟩ := Option.ne_none_iff_exists'.mp waits
    obtain ⟨ticket', mine', -, ⟨c, there, -⟩, -⟩ := agrees.carried task call some_
    obtain rfl : ticket = ticket' := Option.some.inj (mine.symm.trans mine')
    simp [unbegun] at there

/-- The gateway begins a call, and so does the client of the processor. -/
theorem Agrees.begin (agrees : w.Agrees) {g : Gateway String} {task : Nat}
    {call : Gateway.Call String} (now : Ticks) (new : g.waitsFor task = some call)
    (others : ∀ i c, i ≠ task → g.waitsFor i = some c → w.gateway.waitsFor i = some c)
    (ledger : g.ledger = w.gateway.ledger) :
    Agrees (Wired.begin now { w with gateway := g }
      (.called task call.source call.payload call.payment call.requestedAt)) := by
  let event := Processor.Client.Event.call call.payment call.requestedAt now
  let ticket : Ticket := (call.source, (w.clients.get call.source).client.calls.size)
  have advanced := agrees.advance call.source event
  have here : (w.advance call.source event).call? ticket = some ⟨call.payment, call.requestedAt,
      .waiting (now + (w.clients.get call.source).client.terms.patience)⟩ := by
    rw [call?, Wired.advance, PerSource.get_set_self]
    exact Array.getElem?_push_size
  have unbegun : w.call? ticket = none := Array.getElem?_size
  obtain ⟨free, unused⟩ := agrees.unissued unbegun
  have before {i : Nat} (ne : i ≠ task) : g.waitsFor i ≠ none → w.gateway.waitsFor i ≠ none :=
    waiting_of_imp fun c ↦ others i c ne
  refine ⟨advanced.filed, fun i c waits ↦ ?_, fun i j t waits waits' mine mine' ↦ ?_,
    advanced.taken, advanced.nodup, ledger ▸ advanced.books⟩
  · by_cases same : i = task
    · subst same
      cases new.symm.trans waits
      exact ⟨ticket, if_pos rfl, rfl, ⟨_, here, rfl, rfl⟩, free⟩
    · obtain ⟨t, mine, carries⟩ := advanced.carried i c (others i c same waits)
      exact ⟨t, (if_neg same).trans mine, carries.source, carries.fits, carries.uncounted⟩
  · by_cases same : i = task
    · by_cases same' : j = task
      · rw [same, same']
      · have own : some ticket = some t := (if_pos same).symm.trans mine
        have theirs : w.tickets j = some t := (if_neg same').symm.trans mine'
        exact absurd (theirs.trans own.symm) (unused j (before same' waits'))
    · have theirs : w.tickets i = some t := (if_neg same).symm.trans mine
      by_cases same' : j = task
      · have own : some ticket = some t := (if_pos same').symm.trans mine'
        exact absurd (theirs.trans own.symm) (unused i (before same waits))
      · exact agrees.apart i j t (before same waits) (before same' waits') theirs
          ((if_neg same').symm.trans mine')

theorem exists_of_answer? {task : Nat} {outcome : ProcessorOutcome}
    (h : w.answer? task = some (ticket, outcome)) :
    ∃ c, w.gateway.waitsFor task ≠ none ∧ w.tickets task = some ticket ∧
      w.call? ticket = some c ∧ c.stage = .finished outcome := by
  rw [answer?] at h
  by_cases waits : (w.gateway.waitsFor task).isNone
  · rw [if_pos waits] at h
    cases h
  rw [if_neg waits] at h
  obtain ⟨ticket', mine, h⟩ := Option.bind_eq_some_iff.mp h
  obtain ⟨c, there, h⟩ := Option.bind_eq_some_iff.mp h
  split at h
  · next past =>
    cases h
    exact ⟨c, fun none_ ↦ waits (none_ ▸ rfl), mine, there, past⟩
  · cases h

theorem Agrees.heard (agrees : w.Agrees) {task : Nat} {outcome : ProcessorOutcome}
    (h : w.answer? task = some (ticket, outcome)) :
    ∃ call, w.gateway.waitsFor task = some call ∧ w.tickets task = some ticket ∧
      w.record? ticket = some call.record ∧ ticket ∉ w.taken := by
  obtain ⟨c, waiting, mine, there, -⟩ := exists_of_answer? h
  obtain ⟨call, waits⟩ := Option.ne_none_iff_exists'.mp waiting
  obtain ⟨ticket', mine', source, ⟨c', there', payment, requestedAt⟩, uncounted⟩ :=
    agrees.carried task call waits
  obtain rfl : ticket = ticket' := Option.some.inj (mine.symm.trans mine')
  refine ⟨call, waits, mine, ?_, uncounted⟩
  rw [record?, there', Option.map_some, payment, requestedAt, source]
  rfl

theorem Agrees.answer (agrees : w.Agrees) {task : Nat} {outcome : ProcessorOutcome}
    (h : w.answer? task = some (ticket, outcome)) :
    Agrees { w with
      gateway := (w.gateway.step (.answer task outcome)).1
      taken := if outcome = .taken then ticket :: w.taken else w.taken } := by
  obtain ⟨c, waiting, -, there, past⟩ := exists_of_answer? h
  obtain ⟨call, waits, mine, record, uncounted⟩ := agrees.heard h
  have rest : ∀ i call, (w.gateway.step (.answer task outcome)).1.waitsFor i = some call →
      i ≠ task ∧ w.gateway.waitsFor i = some call := fun i call ↦ Gateway.waitsFor_answer waiting
  have before : ∀ i call, (w.gateway.step (.answer task outcome)).1.waitsFor i = some call →
      w.gateway.waitsFor i = some call := fun i call now ↦ (rest i call now).2
  cases outcome with
  | taken =>
    have verdict : w.gateway.verdict? (.answer task .taken) = some (.ok call) :=
      Option.map_eq_some_iff.mpr ⟨call, waits, rfl⟩
    rw [if_pos rfl]
    refine agrees.move before ?_ ?_ (List.nodup_cons.mpr ⟨uncounted, agrees.nodup⟩) ?_
    · intro i t now theirs free mem
      obtain ⟨call', some_⟩ := Option.ne_none_iff_exists'.mp now
      rcases List.mem_cons.mp mem with rfl | old
      · have both := waiting_of_imp (before i) now
        exact (rest i call' some_).1 (agrees.apart i task t both waiting theirs mine)
      · exact free old
    · intro t mem
      rcases List.mem_cons.mp mem with rfl | old
      · exact ⟨c, there, past⟩
      · exact agrees.taken t old
    · rw [Gateway.ledger_of_ok verdict, List.filterMap_cons_some record]
      exact (w.gateway.ledger.records_save_perm ..).trans (agrees.books.cons _)
  | refused fault =>
    have verdict : w.gateway.verdict? (.answer task (.refused fault))
        = some (.error (.dispatch call.source fault)) :=
      Option.map_eq_some_iff.mpr ⟨call, waits, rfl⟩
    rw [if_neg (by simp)]
    refine agrees.move before (fun _ _ _ _ free ↦ free) agrees.taken agrees.nodup ?_
    rw [Gateway.ledger_of_error verdict]
    exact agrees.books

theorem foldl_begin_of_idle (now : Ticks) {effects : List (Gateway.Effect String)}
    (idle : Gateway.begun effects = []) (w : Wired) : effects.foldl (Wired.begin now) w = w := by
  induction effects with
  | nil => rfl
  | cons effect effects ih =>
    rw [Gateway.begun_eq_nil_iff] at idle ih
    rw [List.foldl_cons]
    cases effect with
    | called => exact absurd List.mem_cons_self (idle _ _ _ _ _)
    | _ => exact ih fun _ _ _ _ _ mem ↦ idle _ _ _ _ _ (List.mem_cons_of_mem _ mem)

/-- **Every step keeps the invariant.** -/
theorem Agrees.step (agrees : w.Agrees) (event : Event) : (w.step event).Agrees := by
  cases event with
  | gateway event now =>
    rw [Wired.step]
    by_cases answers : event.isAnswer
    · rw [if_pos answers]
      exact agrees
    rw [if_neg answers]
    have unanswered : event.isAnswer = false := Bool.eq_false_iff.mpr answers
    by_cases idle : Gateway.begun (w.gateway.step event).2 = []
    · rw [perform]
      dsimp only
      rw [foldl_begin_of_idle now idle]
      exact agrees.perform_idle unanswered idle
    · obtain ⟨task, source, payload, payment, requestedAt, called⟩ := Gateway.exists_called idle
      obtain ⟨alone, new⟩ := Gateway.called_step called
      have kept : event ≠ .purge := by
        rintro rfl
        cases called
      have ledger : (w.gateway.step event).1.ledger = w.gateway.ledger :=
        Gateway.ledger_eq_of_unanswered kept fun i ↦ Gateway.Event.ne_of_isAnswer unanswered i _
      have others (i : Nat) (c : Gateway.Call String) (ne : i ≠ task)
          (waits : (w.gateway.step event).1.waitsFor i = some c) :
          w.gateway.waitsFor i = some c := by
        refine (Gateway.waitsFor_step waits).resolve_right fun begins ↦ ?_
        rw [alone] at begins
        cases begins
        exact ne rfl
      rw [if_neg kept, perform]
      dsimp only
      rw [alone]
      exact agrees.begin now new others ledger
  | client source event =>
    rw [Wired.step]
    by_cases calls : event.isCall
    · rw [if_pos calls]
      exact agrees
    · rw [if_neg calls]
      exact agrees.advance source event
  | answer task =>
    rw [Wired.step]
    split
    · exact agrees
    · next ticket outcome heard => exact agrees.answer heard

theorem agrees_run (terms : Gateway.Terms) (clients : PerSource (Processor.Terms × Nat))
    (events : List Event) : ((new terms clients).run events).Agrees := by
  induction events using List.reverseRecOn with
  | nil => exact agrees_new terms clients
  | append_singleton events event ih =>
    rw [run, List.foldl_append]
    exact ih.step event

/-! ## What is counted -/

/-- A call is counted in the step in which an attempt succeeds, and forgotten when the ledger is
emptied. -/
theorem step_taken (w : Wired) (event : Event) :
    match w.verdict? event with
    | some (.ok _) => ∃ ticket, (w.step event).taken = ticket :: w.taken
    | some (.error _) => (w.step event).taken = w.taken
    | none => (w.step event).taken
        = if w.gatewayEvent? event = some .purge then [] else w.taken := by
  cases event with
  | gateway event now =>
    rw [verdict?, gatewayEvent?, Wired.step]
    by_cases answers : event.isAnswer
    · simp [answers]
    rw [if_neg answers, if_neg answers, Option.bind_some]
    split
    · next call verdict =>
      obtain ⟨task, rfl, -⟩ := Gateway.answered_of_ok verdict
      exact absurd rfl answers
    · next fault verdict =>
      refine if_neg ?_
      rintro rfl
      cases verdict
    · simp
  | client source event =>
    rw [verdict?, gatewayEvent?, Wired.step]
    by_cases calls : event.isCall <;> simp [calls, Wired.advance]
  | answer task =>
    rw [verdict?, gatewayEvent?, Wired.step]
    cases heard : w.answer? task with
    | none => rfl
    | some answer =>
      obtain ⟨ticket, outcome⟩ := answer
      obtain ⟨-, waiting, -⟩ := exists_of_answer? heard
      obtain ⟨call, waits⟩ := Option.ne_none_iff_exists'.mp waiting
      rw [Option.map_some, Option.bind_some, Gateway.verdict?, waits]
      cases outcome with
      | taken => exact ⟨ticket, rfl⟩
      | refused fault => rfl

/-- The wire bears a record out: the call with the ticket went to the processor of the record and
was successful, and the request that it posted names the record's amount and its millisecond. -/
def Attests (w : Wired) (ticket : Ticket) (record : Record) : Prop :=
  ∃ call i k l request, w.call? ticket = some call ∧ call.stage = .finished .taken ∧
    (w.clients.get ticket.1).posted ticket.2 = some (i, k) ∧
    (w.clients.get ticket.1).client.links[i]? = some l ∧ l.sent.reverse[k]? = some request ∧
    Processor.IsRequestFor (w.clients.get ticket.1).client.terms.host request call.payment
      record.at_ ∧
    record.amount = call.payment.amount ∧ record.source = ticket.1

theorem Agrees.attests (agrees : w.Agrees) (mem : ticket ∈ w.taken) :
    ∃ record, w.record? ticket = some record ∧ w.Attests ticket record := by
  obtain ⟨call, there, past⟩ := agrees.taken ticket mem
  have filed := agrees.filed ticket.1
  have posted := filed.stages ticket.2 call there
  rw [past] at posted
  obtain ⟨⟨i, k⟩, place⟩ := Option.ne_none_iff_exists'.mp (posted rfl)
  obtain ⟨call', l, there', here, request⟩ := filed.posted ticket.2 i k place
  cases there.symm.trans there'
  refine ⟨⟨ticket.1, call.requestedAt, call.payment.amount⟩, ?_, call, i, k, l, _, there, past,
    place, here, request, Processor.isRequestFor_request _ call, rfl, rfl⟩
  rw [record?, there, Option.map_some]

/-- **The ledger agrees with the wire.** At the end of any run, whatever the processors do and in
whatever order things happen,

* the ledger has exactly the records of the calls that have been counted as successful since it was
  last emptied, one for each call;
* each of these calls has come to the end that the processor took the payment, and its request
  stands on a connection to the processor of the record, with the record's amount and its
  millisecond; no two requests stand in one place;
* if in the next step an attempt succeeds, one record is added, that of its call, and one call is
  counted; if one fails, because its payload says no payment or its call was refused, ledger and
  count are what they were, and so they are in every other step but one that empties them. -/
theorem ledger_agrees_with_wire (terms : Gateway.Terms)
    (clients : PerSource (Processor.Terms × Nat)) (events : List Event) :
    let w := (new terms clients).run events
    w.gateway.ledger.records.Perm (w.taken.filterMap w.record?) ∧ w.taken.Nodup ∧
      (∀ ticket ∈ w.taken, ∃ record, w.record? ticket = some record ∧ w.Attests ticket record) ∧
      (∀ source a b place, (w.clients.get source).posted a = some place →
        (w.clients.get source).posted b = some place → a = b) ∧
      ∀ event,
        match w.verdict? event with
        | some (.ok call) =>
          (w.step event).gateway.ledger.records.Perm (call.record :: w.gateway.ledger.records) ∧
            ∃ ticket, (w.step event).taken = ticket :: w.taken
        | some (.error _) =>
          (w.step event).gateway.ledger = w.gateway.ledger ∧ (w.step event).taken = w.taken
        | none =>
          if w.gatewayEvent? event = some .purge then
            (w.step event).gateway.ledger = .empty ∧ (w.step event).taken = []
          else
            (w.step event).gateway.ledger = w.gateway.ledger ∧ (w.step event).taken = w.taken := by
  intro w
  have agrees : w.Agrees := agrees_run terms clients events
  refine ⟨agrees.books, agrees.nodup, fun ticket ↦ agrees.attests, fun source ↦
    (agrees.filed source).once, fun event ↦ ?_⟩
  have ledger := w.step_ledger event
  have taken := w.step_taken event
  cases verdict : w.verdict? event with
  | none =>
    rw [verdict] at ledger taken
    by_cases purges : w.gatewayEvent? event = some .purge
    · have emptied : (w.step event).gateway.ledger = .empty := by
        rw [step_gateway, purges]
        rfl
      dsimp only at taken ⊢
      rw [if_pos purges] at taken ⊢
      exact ⟨emptied, taken⟩
    · dsimp only at taken ⊢
      rw [if_neg purges] at taken ⊢
      exact ⟨ledger purges, taken⟩
  | some result =>
    rw [verdict] at ledger taken
    cases result with
    | error fault => exact ⟨ledger, taken⟩
    | ok call =>
      refine ⟨?_, taken⟩
      rw [ledger]
      exact w.gateway.ledger.records_save_perm ..

/-- One payment, from its payload to the answer of main. -/
def onePayment : List Event :=
  [.gateway (.ingest "\x7b\"correlationId\":\"a\",\"amount\":19.90\x7d") 0, .gateway (.run 0 0) 0,
    .gateway (.run 0 7) 0, .client .main .warmed, .client .main .lease,
    .client .main (.write 0 none), .client .main (.deliver 0 (utf8 "HTTP/1.1 200 OK\r\n\r\n")),
    .client .main (.read 0), .answer 0]

example :
    let w := (new ⟨false, 1, 1, 1000⟩ ⟨(⟨"main", 5⟩, 1), (⟨"fallback", 5⟩, 1)⟩).run onePayment
    w.taken = [(.main, 0)] ∧ (w.clients.get .main).posted 0 = some (0, 0) ∧
      w.gateway.ledger.records = [⟨.main, 7, ⟨false, 1990, 2, by decide, by decide⟩⟩] := by
  decide +kernel

end Wired

end PaymentRelay
