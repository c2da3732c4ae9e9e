import PaymentRelay.Proofs.Gateway.Calls
import PaymentRelay.Proofs.Gateway.Custody
import PaymentRelay.Proofs.Gateway.Faithful
import PaymentRelay.Proofs.Gateway.Labels

/-!
# Every payload is in one place

Every payload that was handed in is in one place at any time: in the hands of a task of its own, in
the retry queue, in the hands of a task that sweeps, or at its end. To say so of a single payload
the payloads are numbered in the order in which they are handed in; those that a caller has
processed for himself get no number. Numbers are labels, so they make no difference to what the
gateway does.

The numbers that are found in all places together are then those that were given out, each once.
Conservation of weight gives this when each number in turn is all that weighs anything, and what
callers hold weighs nothing then. Counting what is in each place gives the balance of the gateway.
-/

namespace PaymentRelay

/-- The text of a payload, and its number if it has one. -/
structure Numbered where
  number : Option Nat
  text : String
deriving DecidableEq, Repr

instance : Parcel Numbered := ⟨Numbered.text⟩

/-- The payload was not handed in but is a caller's. -/
def Numbered.isGuest (p : Numbered) : Bool := p.number.isNone

/-- The numbers of some payloads. -/
def numbers (payloads : List Numbered) : List Nat := payloads.filterMap Numbered.number

namespace Gateway

variable {α : Type}

/-! ## Numbering what is handed in -/

def Event.isIngest : Event α → Bool
  | .ingest _ => true
  | _ => false

/-- How many payloads are handed in. -/
def ingests (events : List (Event α)) : Nat := events.countP Event.isIngest

/-- The same event, the payload with its number if it is handed in. -/
def Event.number (n : Nat) : Event String → Event Numbered
  | .ingest payload => .ingest ⟨some n, payload⟩
  | event => event.map fun text ↦ ⟨none, text⟩

/-- The same events, what is handed in numbered from `n` on. -/
def numberFrom (n : Nat) : List (Event String) → List (Event Numbered)
  | [] => []
  | event :: events => event.number n :: numberFrom (if event.isIngest then n + 1 else n) events

theorem numberFrom_text (n : Nat) (events : List (Event String)) :
    (numberFrom n events).map (Event.map Numbered.text) = events := by
  induction events generalizing n with
  | nil => rfl
  | cons event events ih =>
    rw [numberFrom, List.map_cons, ih]
    cases event <;> rfl

theorem number_apart (n : Nat) (event : Event String) :
    (event.number n).Apart Numbered.isGuest := by
  constructor
  · intro p same
    cases event <;> cases same
    rfl
  · intro p same
    cases event <;> cases same
    rfl

theorem numberFrom_apart (n : Nat) (events : List (Event String)) :
    ∀ event ∈ numberFrom n events, event.Apart Numbered.isGuest := by
  induction events generalizing n with
  | nil =>
    intro event mem
    cases mem
  | cons event events ih =>
    intro e mem
    rcases List.mem_cons.mp mem with rfl | later
    · exact number_apart n event
    · exact ih _ e later

theorem numbers_numberFrom (n : Nat) (events : List (Event String)) :
    numbers ((numberFrom n events).filterMap Event.payload?) = List.range' n (ingests events) := by
  induction events generalizing n with
  | nil => rfl
  | cons event events ih =>
    have rest := ih (if event.isIngest then n + 1 else n)
    cases event with
    | ingest payload =>
      rw [ingests, List.countP_cons_of_pos rfl, List.range'_succ, ← ingests]
      exact congrArg (List.cons n) rest
    | _ =>
      rw [ingests, List.countP_cons_of_neg Bool.false_ne_true, ← ingests]
      exact rest

/-! ## Place by place -/

/-- The payloads that were handed in, where they are or how they ended. -/
def places (r : Gateway α × List (Effect α)) : List α :=
  r.1.inHands (· == .dispatch) ++ r.1.queue.entries.toList ++ r.1.inHands Role.isSweeping
    ++ ended .recorded r.2 ++ ended .invalid r.2 ++ ended .overflowed r.2

theorem held_eq (w : α → Nat) (g : Gateway α) :
    held w g = weigh w (g.inHands (· == .dispatch)) + weigh w (g.inHands Role.isSweeping)
      + weigh w (g.inHands (· == .single)) := by
  rw [held, tally, inHands, inHands, inHands]
  induction g.tasks.toList with
  | nil => rfl
  | cons t ts ih =>
    have one : weigh w t.payloads = weigh w (if t.role == .dispatch then t.payloads else [])
        + weigh w (if t.role.isSweeping then t.payloads else [])
        + weigh w (if t.role == .single then t.payloads else []) := by
      obtain ⟨role, activity⟩ := t
      cases role
      · exact rfl
      · exact (Nat.zero_add _).symm
      · exact (Nat.zero_add _).symm
      · exact (Nat.zero_add _).symm
    rw [List.map_cons, List.sum_cons, ih, List.flatMap_cons, List.flatMap_cons, List.flatMap_cons,
      weigh_append, weigh_append, weigh_append]
    omega

/-- A payload that came to its end was recorded, said no payment, found the queue full, or is back
with its caller. -/
theorem spent_eq (w : α → Nat) (effects : List (Effect α)) :
    spent w effects = weigh w (ended .recorded effects) + weigh w (ended .invalid effects)
      + weigh w (ended .overflowed effects) + weigh w (ended .returned effects) := by
  rw [spent, ended, ended, ended, ended]
  induction ends effects with
  | nil => rfl
  | cons e es ih =>
    obtain ⟨fate, p⟩ := e
    rw [weigh_cons, ih]
    cases fate
    all_goals
      simp
      omega

/-- What is in all places weighs what was handed in, if what callers hold weighs nothing. -/
theorem weigh_places {w : α → Nat} [Parcel α] {terms : Terms} {events : List (Event α)}
    (hands : weigh w (((new terms).run events).1.inHands (· == .single)) = 0)
    (back : weigh w (ended .returned ((new terms).run events).2) = 0) :
    weigh w (places ((new terms).run events)) = weigh w (events.filterMap Event.payload?) := by
  have total := load_run (w := w) (new terms) events
  have nothing : load w (new terms : Gateway α) = 0 := rfl
  rw [load, held_eq, spent_eq, waiting, nothing] at total
  rw [places, weigh_append, weigh_append, weigh_append, weigh_append, weigh_append]
  omega

/-! ## Who holds numbers -/

theorem numbers_cons_none {p : Numbered} (h : p.number = none) (ps : List Numbered) :
    numbers (p :: ps) = numbers ps := List.filterMap_cons_none h

theorem numbers_cons_some {p : Numbered} {n : Nat} (h : p.number = some n) (ps : List Numbered) :
    numbers (p :: ps) = n :: numbers ps := List.filterMap_cons_some h

theorem weigh_number (n : Nat) (payloads : List Numbered) :
    weigh (fun p ↦ if p.number = some n then 1 else 0) payloads = (numbers payloads).count n := by
  induction payloads with
  | nil => rfl
  | cons p ps ih =>
    rw [weigh_cons, ih]
    cases found : p.number with
    | none => rw [numbers_cons_none found, if_neg nofun, Nat.zero_add]
    | some m =>
      rw [numbers_cons_some found, List.count_cons, Nat.add_comm]
      simp

theorem numbers_append (ps qs : List Numbered) : numbers (ps ++ qs) = numbers ps ++ numbers qs :=
  List.filterMap_append

theorem numbers_eq_nil {payloads : List Numbered} (h : ∀ p ∈ payloads, p.isGuest = true) :
    numbers payloads = [] := by
  refine List.filterMap_eq_nil_iff.mpr fun p mem ↦ ?_
  exact Option.isNone_iff_eq_none.mp (h p mem)

theorem length_numbers {payloads : List Numbered} (h : ∀ p ∈ payloads, p.isGuest = false) :
    (numbers payloads).length = payloads.length := by
  induction payloads with
  | nil => rfl
  | cons p ps ih =>
    cases found : p.number with
    | none =>
      have guest := h p List.mem_cons_self
      rw [Numbered.isGuest, found] at guest
      cases guest
    | some n =>
      rw [numbers_cons_some found, List.length_cons, List.length_cons,
        ih fun p mem ↦ h p (List.mem_cons_of_mem _ mem)]

theorem mem_inHands {g : Gateway α} {q : Role → Bool} {p : α} (h : p ∈ g.inHands q) :
    ∃ (i : Nat) (t : Task α), g.tasks[i]? = some t ∧ q t.role = true ∧ p ∈ t.payloads := by
  obtain ⟨t, there, mem⟩ := List.mem_flatMap.mp h
  obtain ⟨i, there⟩ := Array.mem_iff_getElem?.mp (Array.mem_toList_iff.mp there)
  split at mem
  · next role => exact ⟨i, t, there, role, mem⟩
  · cases mem

theorem isGuest_of_mem_inHands {g : Gateway Numbered} (apart : Apart Numbered.isGuest g)
    {q : Role → Bool} {b : Bool} (uniform : ∀ role, q role = true → (role == .single) = b) :
    ∀ p ∈ g.inHands q, p.isGuest = b := by
  intro p mem
  obtain ⟨i, t, there, role, mem⟩ := mem_inHands mem
  rw [apart.tasks i t there p mem]
  exact uniform t.role role

theorem length_inHands_dispatch {g : Gateway α}
    (shaped : ∀ (i : Nat) (t : Task α), g.tasks[i]? = some t → Shaped t) :
    (g.inHands (· == .dispatch)).length = g.dispatching := by
  have shaped : ∀ t ∈ g.tasks.toList, Shaped t := fun t mem ↦ by
    obtain ⟨i, there⟩ := Array.mem_iff_getElem?.mp (Array.mem_toList_iff.mp mem)
    exact shaped i t there
  rw [inHands, dispatching]
  generalize g.tasks.toList = tasks at shaped
  induction tasks with
  | nil => rfl
  | cons t ts ih =>
    have rest := ih fun t mem ↦ shaped t (List.mem_cons_of_mem _ mem)
    rw [List.flatMap_cons, List.length_append, rest, List.countP_cons, Nat.add_comm,
      Nat.add_left_cancel_iff]
    have one := shaped t List.mem_cons_self
    obtain ⟨role, activity⟩ := t
    cases role
    · rcases one rfl with past | ⟨attempt, taken, trying⟩
      · cases past
        rfl
      · cases trying
        rfl
    all_goals rfl

theorem isGuest_of_mem_ended {terms : Terms} {events : List (Event Numbered)}
    (proper : ∀ event ∈ events, event.Apart Numbered.isGuest) {fate : Fate}
    (kept : fate ≠ .recorded) :
    ∀ p ∈ ended fate ((new terms).run events).2, p.isGuest = (fate == .returned) := by
  intro p mem
  -- at the step in which it came to its end, callers' payloads were still apart
  obtain ⟨effect, mem, past⟩ := mem_ended.mp mem
  obtain ⟨before, event, after, rfl, now⟩ := exists_step_of_mem_run mem
  have apart : Apart Numbered.isGuest ((new terms).run before).1 :=
    apart_run fun e mem ↦ proper e (List.mem_append_left _ mem)
  have fits : event.Apart Numbered.isGuest :=
    proper event (List.mem_append_right _ List.mem_cons_self)
  exact (guest_of_end fits apart now past).resolve_left kept

/-! ## The balance -/

/-- The numbers in all places are the numbers that were given out, each once. -/
theorem numbers_places_perm (terms : Terms) (events : List (Event String)) :
    (numbers (places ((new terms).run (numberFrom 0 events)))).Perm
      (List.range (ingests events)) := by
  have proper := numberFrom_apart 0 events
  have apart : Apart Numbered.isGuest ((new terms).run (numberFrom 0 events)).1 :=
    apart_run proper
  -- number by number: let `n` be all that weighs anything
  rw [List.perm_iff_count]
  intro n
  rw [← weigh_number, weigh_places, weigh_number, numbers_numberFrom, List.range_eq_range']
  · have guests := isGuest_of_mem_inHands apart (q := (· == .single)) (b := true)
      fun role single ↦ single
    rw [weigh_number, numbers_eq_nil guests, List.count_nil]
  · have guests : ∀ p ∈ ended .returned ((new terms).run (numberFrom 0 events)).2,
        p.isGuest = true := isGuest_of_mem_ended proper (by decide)
    rw [weigh_number, numbers_eq_nil guests, List.count_nil]

/-- If the numbers in all places are so many, the places together hold so many payloads. -/
theorem balance {r : Gateway Numbered × List (Effect Numbered)} {n : Nat}
    (once : (numbers (places r)).Perm (List.range n)) (apart : Apart Numbered.isGuest r.1)
    (past : ∀ fate ≠ .recorded, ∀ p ∈ ended fate r.2, p.isGuest = (fate == .returned))
    (counted : r.1.queue.dropped = (ended .overflowed r.2).length) :
    n = r.1.dispatching + r.1.queue.size + (r.1.inHands Role.isSweeping).length
      + (numbers (ended .recorded r.2)).length + (ended .invalid r.2).length
      + r.1.queue.dropped := by
  -- only among what was recorded are there payloads without a number
  have dispatch : ∀ p ∈ r.1.inHands (· == .dispatch), p.isGuest = false :=
    isGuest_of_mem_inHands apart fun role h ↦ by
      cases role <;> first | rfl | cases h
  have sweeping : ∀ p ∈ r.1.inHands Role.isSweeping, p.isGuest = false :=
    isGuest_of_mem_inHands apart fun role h ↦ by
      cases role <;> first | rfl | cases h
  have queued : ∀ p ∈ r.1.queue.entries.toList, p.isGuest = false :=
    fun p mem ↦ apart.queue p (Array.mem_toList_iff.mp mem)
  have total := once.length_eq
  rw [List.length_range, places, numbers_append, numbers_append, numbers_append, numbers_append,
    numbers_append, List.length_append, List.length_append, List.length_append,
    List.length_append, List.length_append, length_numbers dispatch, length_numbers queued,
    length_numbers sweeping, length_numbers (past .invalid (by decide)),
    length_numbers (past .overflowed (by decide)), length_inHands_dispatch apart.shaped,
    Array.length_toList, ← counted] at total
  exact total.symm

theorem map_new {β : Type} (f : α → β) (terms : Terms) :
    (new terms : Gateway α).map f = new terms := by
  rw [map, new, new, RetryQueue.map, RetryQueue.new, RetryQueue.new, Array.map_empty,
    Array.map_empty]

/-- **Every payload is in one place.** Whatever is handed in and in whatever order things happen,
if the payloads that are handed in are numbered (which makes no difference), then at the end of the
run

* each number is found once, and in one place: with a task that dispatches, in the retry queue, with
  a task that sweeps, recorded, dropped as invalid, or dropped because the queue was full;
* so many payloads were handed in as tasks are dispatching, payloads are waiting or with tasks that
  sweep, were recorded or were invalid, and as the retry queue has counted as dropped;
* a processor was called only with a payment that the payload says, and only such a payment was
  recorded;
* what was dropped as invalid says no payment;
* the ledger has a record of each payment that was recorded since it was last emptied, saved in that
  order, and those that it had before. -/
theorem each_payload_in_one_place (terms : Terms) (events : List (Event String)) :
    let run := (new terms).run events
    let numbered := (new terms).run (numberFrom 0 events)
    run = mapResult Numbered.text numbered ∧
      (numbers (places numbered)).Perm (List.range (ingests events)) ∧
      ingests events = numbered.1.dispatching + numbered.1.queue.size
        + (numbered.1.inHands Role.isSweeping).length
        + (numbers (ended .recorded numbered.2)).length + (ended .invalid numbered.2).length
        + numbered.1.queue.dropped ∧
      (∀ task source payload payment requestedAt,
        .called task source payload payment requestedAt ∈ run.2 ∨
            .recorded task source payload payment requestedAt ∈ run.2 →
          Payload.read payload = .ok payment) ∧
      (∀ role payload fault, .discarded role payload fault ∈ run.2 →
        ∃ cause, fault = .invalidPayload cause ∧ Payload.read payload = .error cause) ∧
      ∀ before after, events = before ++ after → .purge ∉ after →
        let earlier := ((new terms).run before).1
        run.1.ledger = book earlier.ledger (earlier.run after).2 ∧
          run.1.ledger.records.Perm
            ((booked (earlier.run after).2).map Call.record ++ earlier.ledger.records) := by
  have proper := numberFrom_apart 0 events
  have once := numbers_places_perm terms events
  refine ⟨?_, once, ?_, ?_, ?_, ?_⟩
  · have taken := run_map (f := Numbered.text) (fun _ ↦ rfl) (new terms) (numberFrom 0 events)
    rw [numberFrom_text, map_new] at taken
    exact taken
  · exact balance once (apart_run proper) (fun fate kept ↦ isGuest_of_mem_ended proper kept)
      (dropped_run_new terms (numberFrom 0 events))
  · intro task source payload payment requestedAt sent
    have read : Payload.read (Parcel.text payload) = .ok payment := read_of_mem_run sent
    exact read
  · intro role payload fault dropped
    have read : ∃ cause, fault = .invalidPayload cause ∧
        Payload.read (Parcel.text payload) = .error cause := read_of_discarded_mem_run dropped
    exact read
  · intro before after split kept
    have ledger : ((new terms).run events).1.ledger = book ((new terms).run before).1.ledger
        (((new terms).run before).1.run after).2 := by
      rw [split, run_append]
      exact ledger_run kept
    exact ⟨ledger, ledger ▸ records_book_perm _ _⟩

end Gateway

end PaymentRelay
