import Mathlib.Data.List.Induction
import PaymentRelay.Gateway.Summaries
import PaymentRelay.Proofs.Gateway.Calls

/-!
# Which processor is called, and when none is

A processor is chosen by single looks at the monitors, and anything may happen between two of them.
Main is called by the very step that finds it up. Fallback is called by a step that finds it up, in
an attempt that has found main down before; how long before is not bounded, but that look belongs to
the same attempt, and the attempt has not looked at anything since. Without failover it never comes
to that, so all calls are of main, and none begins while main is down.

That is what a locked summary rests on. Main goes down in the same step in which the ledger is
summed up, and until main goes up again only the calls that were under way can add to the ledger.
An attempt that was woken by main's going up just before is none of these: it has to look once more.
-/

namespace PaymentRelay.Gateway

variable {α : Type}

/-! ## What stays as it was -/

theorem failover_step [Parcel α] (g : Gateway α) (event : Event α) :
    (g.step event).1.failover = g.failover := by
  rcases health_step g event with ⟨source, monitor, -, changed⟩ | ⟨-, same⟩
  · rw [changed, setMonitor_eq]
  · exact same

theorem failover_run [Parcel α] (terms : Terms) (events : List (Event α)) :
    ((new terms).run events).1.failover = terms.failover :=
  run_induction (I := fun g ↦ g.failover = terms.failover)
    (fun g event _ same ↦ (failover_step g event).trans same) rfl

/-! ## Looks at the monitors -/

/-- A processor is called after it was found to be up: main at the first look, fallback at the
second. -/
theorem look_calling [Parcel α] {g : Gateway α} {attempt : Attempt α} {at_ requestedAt : Millis}
    {payment : Payment} {source : Source}
    (fresh : ∀ payment source at_, attempt.stage ≠ .calling payment source at_)
    (looked : g.look attempt at_ = .ok (.calling payment source requestedAt)) :
    (source = .main ∧ attempt.stage = .choosing payment ∧ g.health.main.isUp = true) ∨
      (source = .fallback ∧ attempt.stage = .second payment ∧ g.health.fallback.isUp = true) := by
  obtain ⟨payload, stage⟩ := attempt
  cases stage with
  | received =>
    rw [look] at looked
    cases read : Payload.read (Parcel.text payload) <;> simp [read, Except.map] at looked
  | choosing p =>
    by_cases up : g.health.main.isUp
    · simp only [look, up] at looked
      cases looked
      exact Or.inl ⟨rfl, rfl, up⟩
    · cases may : g.failover <;> simp [look, up, may] at looked
  | second p =>
    by_cases up : g.health.fallback.isUp
    · simp only [look, up] at looked
      cases looked
      exact Or.inr ⟨rfl, rfl, up⟩
    · simp [look, up] at looked
  | waking p => cases up : g.health.main.published <;> simp [look, up] at looked
  | parked p => cases looked
  | calling p s t => exact absurd rfl (fresh p s t)

/-- An attempt comes to its second look only from a first look that found main down, and only if
failover is allowed. -/
theorem look_second [Parcel α] {g : Gateway α} {attempt : Attempt α} {at_ : Millis}
    {payment : Payment} (looked : g.look attempt at_ = .ok (.second payment)) :
    attempt.stage = .choosing payment ∧ g.health.main.isUp = false ∧ g.failover = true := by
  obtain ⟨payload, stage⟩ := attempt
  cases stage with
  | received =>
    rw [look] at looked
    cases read : Payload.read (Parcel.text payload) <;> simp [read, Except.map] at looked
  | choosing p =>
    cases up : g.health.main.isUp <;> cases may : g.failover <;> simp [look, up, may] at looked
    exact ⟨by rw [looked], rfl, rfl⟩
  | second p => cases up : g.health.fallback.isUp <;> simp [look, up] at looked
  | waking p => cases up : g.health.main.published <;> simp [look, up] at looked
  | parked p => cases looked
  | calling p s t => cases looked

/-- An attempt that is at its second look after a step was there before, or it has just found main
down at its first. -/
theorem second_step [Parcel α] {g : Gateway α} {event : Event α} {task : Nat} {payload : α}
    {payment : Payment}
    (h : (g.step event).1.attemptOf task = some ⟨payload, .second payment⟩) :
    g.attemptOf task = some ⟨payload, .second payment⟩ ∨
      (g.attemptOf task = some ⟨payload, .choosing payment⟩ ∧ g.health.main.isUp = false ∧
        g.failover = true) := by
  obtain ⟨u, there, trying⟩ := Option.bind_eq_some_iff.mp h
  rcases turn_step there with ⟨t, before, turn⟩ | ⟨-, new⟩
  · rw [attemptOf, before, Option.bind_some]
    cases turn with
    | stay => exact Or.inl trying
    | wake =>
      -- waking takes an attempt away from where it waits, and nowhere else
      refine Or.inl ?_
      obtain ⟨role, _ | ⟨⟨p, stage⟩, rest, taken⟩ | _ | _⟩ := t
      · exact trying
      · cases stage <;> simp_all [Task.wake, Task.attempt?, Task.withStage, Stage.wake]
      · exact trying
      · exact trying
    | @look role attempt rest taken at_ stage looked =>
      cases trying
      obtain ⟨first, down, may⟩ := look_second looked
      refine Or.inr ⟨?_, down, may⟩
      rw [← first]
      rfl
    | settle role attempt rest taken =>
      rw [Role.attempt?_next] at trying
      cases rest <;> cases trying
    | fetch role =>
      rw [Role.attempt?_next] at trying
      cases batch : g.batch <;> rw [batch] at trying <;> cases trying
    | rise role => cases trying
  · cases event <;> cases new <;> cases trying

/-! ## Selection -/

section Selection

variable [Parcel α] {terms : Terms}

/-- At the end of a history, an attempt is at its second look: earlier in the history it has found
main down while failover was allowed, and it has been there ever since. -/
def PassedOver (terms : Terms) (history : List (Event α)) (task : Nat) (payload : α)
    (payment : Payment) : Prop :=
  ∃ earlier event since, history = earlier ++ event :: since ∧
    ((new terms).run earlier).1.attemptOf task = some ⟨payload, .choosing payment⟩ ∧
    ((new terms).run earlier).1.health.main.isUp = false ∧
    ∀ part, part <+: since → ((new terms).run (earlier ++ event :: part)).1.attemptOf task
      = some ⟨payload, .second payment⟩

/-- What holds at the end of a history if a step then calls a processor. -/
def Selected (terms : Terms) (history : List (Event α)) (task : Nat) (payload : α)
    (payment : Payment) : Source → Prop
  | .main =>
    ((new terms).run history).1.attemptOf task = some ⟨payload, .choosing payment⟩ ∧
      ((new terms).run history).1.health.main.isUp = true
  | .fallback =>
    terms.failover = true ∧ PassedOver terms history task payload payment ∧
      ((new terms).run history).1.health.fallback.isUp = true

theorem run_concat (g : Gateway α) (history : List (Event α)) (event : Event α) :
    (g.run (history ++ [event])).1 = ((g.run history).1.step event).1 := by
  rw [run_append]
  rfl

/-- **An attempt at its second look** has found main down at its first. -/
theorem passedOver_of_second {history : List (Event α)} {task : Nat} {payload : α}
    {payment : Payment}
    (h : ((new terms).run history).1.attemptOf task = some ⟨payload, .second payment⟩) :
    terms.failover = true ∧ PassedOver terms history task payload payment := by
  induction history using List.reverseRecOn with
  | nil => cases h
  | append_singleton history event ih =>
    have now := h
    rw [run_concat] at h
    rcases second_step h with before | ⟨first, down, may⟩
    · obtain ⟨may, earlier, look, since, rfl, first, down, still⟩ := ih before
      refine ⟨may, earlier, look, since ++ [event], by simp, first, down, fun part within ↦ ?_⟩
      rcases List.prefix_concat_iff.mp within with rfl | within
      · simpa using now
      · exact still part within
    · rw [failover_run] at may
      refine ⟨may, history, event, [], rfl, first, down, fun part within ↦ ?_⟩
      rw [List.prefix_nil.mp within]
      exact now

/-- **Every call is of a processor that was selected.** -/
theorem selected_of_called {history : List (Event α)} {event : Event α} {task : Nat}
    {source : Source} {payload : α} {payment : Payment} {requestedAt : Millis}
    (h : .called task source payload payment requestedAt ∈
      (((new terms).run history).1.step event).2) :
    Selected terms history task payload payment source := by
  cases arises_of_mem_step h with
  | @called _ role attempt rest taken _ _ at_ _ there fresh looked =>
    obtain ⟨payload, stage⟩ := attempt
    have trying := attemptOf_of_trying there
    rcases look_calling fresh looked with ⟨rfl, rfl, up⟩ | ⟨rfl, rfl, up⟩
    · exact ⟨trying, up⟩
    · obtain ⟨may, passed⟩ := passedOver_of_second trying
      exact ⟨may, passed, up⟩
  | enqueued offered done =>
    rcases mem_enqueue_snd done with other | ⟨report, other⟩ <;> cases other

end Selection

/-! ## Quiescence -/

section Quiescence

variable [Parcel α] {terms : Terms}

/-- In no step of a run does main go up. -/
def StaysDown (g : Gateway α) (events : List (Event α)) : Prop :=
  ∀ part event rest, events = part ++ event :: rest →
    (g.run part).1.health.main.isUp = false → (g.run (part ++ [event])).1.health.main.isUp = false

theorem main_down_of_staysDown {g : Gateway α} {events : List (Event α)}
    (down : g.health.main.isUp = false) (stays : g.StaysDown events) {part : List (Event α)}
    (h : part <+: events) : (g.run part).1.health.main.isUp = false := by
  induction part using List.reverseRecOn with
  | nil => exact down
  | append_singleton part event ih =>
    obtain ⟨rest, split⟩ := h
    rw [List.append_assoc, List.singleton_append] at split
    exact stays part event rest split.symm (ih ⟨event :: rest, split⟩)

theorem main_down_lockSummary (g : Gateway α) (w : Window) (now : Ticks) :
    (g.lockSummary w now).1.health.main.isUp = false := by
  rw [lockSummary, step, setMonitor_eq]
  rfl

/-- **Without failover no call begins while main is down.** -/
theorem begun_eq_nil (closed : terms.failover = false) {history period : List (Event α)}
    (down : ((new terms).run history).1.health.main.isUp = false)
    (stays : ((new terms).run history).1.StaysDown period) :
    begun (((new terms).run history).1.run period).2 = [] := by
  rw [begun_eq_nil_iff]
  intro task source payload payment requestedAt called
  obtain ⟨part, event, rest, rfl, now⟩ := exists_step_of_mem_run called
  have later : ((new terms).run (history ++ part)).1
      = (((new terms).run history).1.run part).1 := by
    rw [run_append]
  rw [← later] at now
  have selected := selected_of_called now
  cases source with
  | main =>
    have still := main_down_of_staysDown down stays (List.prefix_append part (event :: rest))
    rw [← later, selected.2] at still
    cases still
  | fallback => exact Bool.false_ne_true (closed.symm.trans selected.1)

end Quiescence

/-- **Selection and quiescence.** Whatever happens and in whatever order,

* a call of main begins in a step that finds main up; a call of fallback begins in a step that finds
  fallback up, only if failover is allowed, and in an attempt that found main down when it looked at
  main last;
* without failover fallback is never called;
* without failover, from a locked summary until main goes up again, no call begins. So the payments
  recorded in that time are of calls that were under way at the lock, each recorded once at most,
  and the ledger has no other records than it had and those of such calls. -/
theorem selection_and_quiescence (terms : Terms) (events : List (Event String)) :
    (∀ before event after task source payload payment requestedAt,
      events = before ++ event :: after →
      .called task source payload payment requestedAt ∈ (((new terms).run before).1.step event).2 →
        Selected terms before task payload payment source) ∧
      (terms.failover = false → ∀ task payload payment requestedAt,
        .called task .fallback payload payment requestedAt ∉ ((new terms).run events).2) ∧
      (terms.failover = false → ∀ w now period,
        let locked := (((new terms).run events).1.lockSummary w now).1
        locked.StaysDown period →
          (∀ part, part <+: period → (locked.run part).1.health.main.isUp = false) ∧
            begun (locked.run period).2 = [] ∧
            (booked (locked.run period).2).Subperm locked.underWay ∧
            (locked.run period).1.ledger.records.Subperm
              (locked.underWay.map Call.record ++ locked.ledger.records)) := by
  refine ⟨?_, ?_, ?_⟩
  · rintro before event after task source payload payment requestedAt - called
    exact selected_of_called called
  · intro closed task payload payment requestedAt called
    obtain ⟨before, event, after, -, now⟩ := exists_step_of_mem_run called
    exact Bool.false_ne_true (closed.symm.trans (selected_of_called now).1)
  · intro closed w now period locked stays
    have down : locked.health.main.isUp = false := main_down_lockSummary _ w now
    -- the lock is a step of the history like any other
    have reached : locked = ((new terms).run (events ++ [.markDown .main now])).1 :=
      (run_concat _ events _).symm
    have none : begun (locked.run period).2 = [] := by
      rw [reached] at down stays ⊢
      exact begun_eq_nil closed down stays
    have settled := booked_subperm_underWay none
    refine ⟨fun part within ↦ main_down_of_staysDown down stays within, none, settled, ?_⟩
    obtain ⟨calls, perm, sub⟩ := settled
    have records : ((booked (locked.run period).2).map Call.record).Subperm
        (locked.underWay.map Call.record) := ⟨_, perm.map _, sub.map _⟩
    exact (records_run_subperm locked period).trans ((List.subperm_append_right _).mpr records)

/-- Main is locked while one payment is under way and another is about to choose. -/
def lockedBusy : Gateway String :=
  ((new ⟨false, 2, 10, 1000⟩).run [.ingest "\x7b\"correlationId\":\"a\",\"amount\":1\x7d", .run 0 0,
    .run 0 7, .ingest "\x7b\"correlationId\":\"b\",\"amount\":2\x7d", .run 1 0,
    .markDown .main 0]).1

-- the first is still recorded, the second goes to sleep
example :
    let after := lockedBusy.run [.run 1 8, .run 1 9, .answer 0 .taken]
    after.1.health.main.isUp = false ∧
      (booked after.2).map (·.payload) = ["\x7b\"correlationId\":\"a\",\"amount\":1\x7d"] ∧
      after.1.ledger.records = lockedBusy.underWay.map Call.record ∧
      after.1.tasks.map Task.isRunnable = #[false, false] := by
  decide +kernel

end PaymentRelay.Gateway
