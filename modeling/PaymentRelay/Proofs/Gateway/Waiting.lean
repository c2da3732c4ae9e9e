import PaymentRelay.Proofs.Gateway.Verdict
import PaymentRelay.Proofs.Health.Waiting

/-!
# No payment sleeps while main is up

An attempt that finds no processor waits for main as any task waits for a monitor. It looks at what
is published and parks, it is woken when something new is published, and at its next turn it looks
again. Only then does it begin to choose anew. Whether main was up, or fallback was, when it looked
before is of no account: everything that happens between two of its turns leaves it waiting, and
the later turn is decided by what main is at that moment.

A gateway in which no task can go on by itself is one in which every payment that has no processor
yet is parked, and main is down.
-/

namespace PaymentRelay

variable {α : Type}

theorem Monitor.Candid.next {m monitor : Monitor} (candid : m.Candid) (next : m.Next monitor) :
    monitor.Candid := by
  cases next with
  | markDown now => exact candid.markDown now
  | markUp => exact candid.markUp
  | expire deadline => exact candid.expire deadline

def Attempt.wake (attempt : Attempt α) : Attempt α := { attempt with stage := attempt.stage.wake }

theorem Task.attempt?_wake (t : Task α) : t.wake.attempt? = t.attempt?.map Attempt.wake := by
  obtain ⟨role, _ | _ | _ | _⟩ := t <;> rfl

namespace Gateway

variable {g : Gateway α} {task : Nat} {payload : α} {payment : Payment}

/-- What holds of a gateway between any two steps. -/
structure Attentive (g : Gateway α) : Prop where
  candid : g.health.main.Candid
  /-- No attempt is parked unless main is down. -/
  parked : ∀ task payload payment, g.attemptOf task = some ⟨payload, .parked payment⟩ →
    g.health.main.isUp = false

/-- A payment waits for main. -/
def Waits (g : Gateway α) (task : Nat) (payload : α) (payment : Payment) : Prop :=
  g.attemptOf task = some ⟨payload, .waking payment⟩ ∨
    g.attemptOf task = some ⟨payload, .parked payment⟩

theorem attentive_new (terms : Terms) : (new terms : Gateway α).Attentive where
  candid := Monitor.candid_new .main terms.recoveryDelay
  parked task payload payment there := by simp [attemptOf, new] at there

/-! ## What becomes of an attempt -/

theorem attemptOf_setMonitor (g : Gateway α) (source : Source) (monitor : Monitor) (task : Nat) :
    (g.setMonitor source monitor).attemptOf task =
      if source = .main ∧ monitor.isUp ≠ g.health.main.isUp then
        (g.attemptOf task).map Attempt.wake
      else g.attemptOf task := by
  rw [setMonitor]
  split
  · rw [attemptOf, Array.getElem?_map, attemptOf]
    cases g.tasks[task]? with
    | none => rfl
    | some t => exact t.attempt?_wake
  · rfl

theorem attemptOf_of_setIfInBounds {g' : Gateway α} {other : Nat} {t : Task α}
    (tasks : g'.tasks = g.tasks.setIfInBounds other t) (another : other ≠ task) :
    g'.attemptOf task = g.attemptOf task := by
  rw [attemptOf, tasks, Array.getElem?_setIfInBounds_ne another, attemptOf]

theorem attemptOf_addTask {attempt : Attempt α} (there : g.attemptOf task = some attempt)
    (t : Task α) : (g.addTask t).attemptOf task = some attempt := by
  obtain ⟨u, at_, trying⟩ := Option.bind_eq_some_iff.mp there
  obtain ⟨within, rfl⟩ := Array.getElem?_eq_some_iff.mp at_
  rw [attemptOf, addTask, Array.getElem?_push_lt within]
  exact trying

theorem attemptOf_run [Parcel α] {attempt : Attempt α} {requestedAt : Millis} {stage : Stage}
    (there : g.attemptOf task = some attempt) (looked : g.look attempt requestedAt = .ok stage) :
    (g.step (.run task requestedAt)).1.attemptOf task = some { attempt with stage } := by
  obtain ⟨role, rest, taken, there⟩ := exists_of_attemptOf there
  have within := (Array.getElem?_eq_some_iff.mp there).1
  have now : (g.setTask task ⟨role, .trying { attempt with stage } rest taken⟩).tasks[task]?
      = some ⟨role, .trying { attempt with stage } rest taken⟩ :=
    Array.getElem?_setIfInBounds_self_of_lt within
  rw [step, runTask, there]
  dsimp only
  rw [looked]
  exact attemptOf_of_trying now

theorem attemptOf_runTask_of_ne [Parcel α] {other : Nat} (another : other ≠ task)
    (requestedAt : Millis) : (g.runTask other requestedAt).1.attemptOf task = g.attemptOf task := by
  rw [runTask]
  split
  · split
    · exact attemptOf_of_setIfInBounds rfl another
    · exact attemptOf_of_setIfInBounds (congrArg tasks (failAttempt_fst ..)) another
  · exact attemptOf_of_setIfInBounds (congrArg tasks (takeBatch_fst ..)) another
  · rfl

theorem attemptOf_answerTask_of_idle {other : Nat} (outcome : ProcessorOutcome)
    (idle : g.waitsFor task = none) :
    (g.answerTask other outcome).1.attemptOf task = g.attemptOf task := by
  by_cases own : other = task
  · subst own
    rw [answerTask_of_idle idle]
  rw [answerTask]
  split
  · split
    · exact attemptOf_of_setIfInBounds (congrArg tasks (recordAttempt_fst ..)) own
    · exact attemptOf_of_setIfInBounds (congrArg tasks (failAttempt_fst ..)) own
  · rfl

/-! ## Waiting for main -/

theorem Waits.of_eq {g' : Gateway α} (waits : g.Waits task payload payment)
    (same : g'.attemptOf task = g.attemptOf task) : g'.Waits task payload payment := by
  rw [Waits, same]
  exact waits

theorem Waits.addTask (waits : g.Waits task payload payment) (t : Task α) :
    (g.addTask t).Waits task payload payment :=
  waits.imp (attemptOf_addTask · t) (attemptOf_addTask · t)

theorem Waits.waitsFor (waits : g.Waits task payload payment) : g.waitsFor task = none := by
  rw [waitsFor_eq]
  rcases waits with there | there <;> rw [there] <;> rfl

theorem Waits.setMonitor (waits : g.Waits task payload payment) (source : Source)
    (monitor : Monitor) : (g.setMonitor source monitor).Waits task payload payment := by
  rw [Waits, attemptOf_setMonitor]
  split
  · refine Or.inl ?_
    rcases waits with there | there <;> rw [there] <;> rfl
  · exact waits

/-- **A payment goes on waiting** through every step that is not its own task's turn. -/
theorem Waits.step [Parcel α] (waits : g.Waits task payload payment) {event : Event α}
    (other : ∀ requestedAt, event ≠ .run task requestedAt) :
    (g.step event).1.Waits task payload payment := by
  cases event with
  | ingest handed =>
    rw [Gateway.step, ingest]
    split
    · exact waits.of_eq rfl
    · have waits : { g with freeSlots := g.freeSlots - 1 }.Waits task payload payment :=
        waits.of_eq rfl
      exact waits.addTask _
  | process => exact waits.addTask _
  | sweep => exact waits.addTask _
  | startWorker => exact waits.addTask _
  | run i requestedAt =>
    have another : i ≠ task := by
      rintro rfl
      exact other requestedAt rfl
    exact waits.of_eq (attemptOf_runTask_of_ne another requestedAt)
  | answer i outcome => exact waits.of_eq (attemptOf_answerTask_of_idle outcome waits.waitsFor)
  | wakeWorker i =>
    rw [Gateway.step]
    split
    · next role resting =>
      refine waits.of_eq (attemptOf_of_setIfInBounds rfl ?_)
      -- a task that rests makes no attempt
      rintro rfl
      rcases waits with there | there <;> simp [attemptOf, resting, Task.attempt?] at there
    · exact waits
  | markDown source now => exact waits.setMonitor source _
  | markUp source => exact waits.setMonitor source _
  | expire source deadline => exact waits.setMonitor source _
  | purge => exact waits.of_eq rfl

theorem Waits.run [Parcel α] (waits : g.Waits task payload payment) {events : List (Event α)}
    (others : ∀ requestedAt, .run task requestedAt ∉ events) :
    (g.run events).1.Waits task payload payment :=
  run_induction (I := fun g ↦ g.Waits task payload payment)
    (fun _ _ mem waits ↦ waits.step fun at_ own ↦ others at_ (own ▸ mem)) waits

/-! ## Looking at main -/

/-- **What a turn comes to**: a payment that waits has main to choose if main is up at that moment,
and is parked if it is not. -/
theorem Attentive.look_eq [Parcel α] (attentive : g.Attentive)
    (waits : g.Waits task payload payment) (requestedAt : Millis) {attempt : Attempt α}
    (there : g.attemptOf task = some attempt) :
    g.look attempt requestedAt =
      .ok (if g.health.main.isUp then .choosing payment else .parked payment) := by
  rcases waits with waking | parked
  · rw [waking] at there
    cases there
    rw [look, attentive.candid]
  · have down := attentive.parked task payload payment parked
    rw [parked] at there
    cases there
    rw [look, down]
    rfl

theorem Attentive.turn [Parcel α] (attentive : g.Attentive) (waits : g.Waits task payload payment)
    (requestedAt : Millis) : (g.step (.run task requestedAt)).1.attemptOf task =
      some ⟨payload, if g.health.main.isUp then .choosing payment else .parked payment⟩ := by
  have there : ∃ stage, g.attemptOf task = some ⟨payload, stage⟩ :=
    waits.elim (⟨_, ·⟩) (⟨_, ·⟩)
  obtain ⟨stage, there⟩ := there
  exact attemptOf_run there (attentive.look_eq waits requestedAt there)

/-- An attempt is parked by a look that found main down, and by nothing else. -/
theorem look_parked [Parcel α] {attempt : Attempt α} {requestedAt : Millis}
    (looked : g.look attempt requestedAt = .ok (.parked payment)) :
    attempt.stage = .parked payment ∨ g.health.main.published = false := by
  obtain ⟨payload, stage⟩ := attempt
  cases stage with
  | received =>
    rw [look] at looked
    cases read : Payload.read (Parcel.text payload) <;> simp [read, Except.map] at looked
  | choosing p =>
    cases up : g.health.main.isUp <;> cases may : g.failover <;> simp [look, up, may] at looked
  | second p => cases up : g.health.fallback.isUp <;> simp [look, up] at looked
  | waking p => cases seen : g.health.main.published <;> simp [look, seen] at looked ⊢
  | parked p =>
    cases looked
    exact Or.inl rfl
  | calling p s t => cases looked

/-- An attempt that is parked after a step was parked before, or has just found main down. -/
theorem parked_step [Parcel α] {event : Event α}
    (h : (g.step event).1.attemptOf task = some ⟨payload, .parked payment⟩) :
    g.attemptOf task = some ⟨payload, .parked payment⟩ ∨ g.health.main.published = false := by
  obtain ⟨u, there, trying⟩ := Option.bind_eq_some_iff.mp h
  rcases turn_step there with ⟨t, before, turn⟩ | ⟨-, new⟩
  · rw [attemptOf, before, Option.bind_some]
    cases turn with
    | stay => exact Or.inl trying
    | wake =>
      rw [Task.attempt?_wake, Option.map_eq_some_iff] at trying
      obtain ⟨⟨_, stage⟩, -, woken⟩ := trying
      cases stage <;> cases woken
    | @look role attempt rest taken at_ stage looked =>
      cases trying
      refine (look_parked looked).imp_left fun same ↦ ?_
      rw [← same]
      rfl
    | settle role attempt rest taken =>
      rw [Role.attempt?_next] at trying
      cases rest <;> cases trying
    | fetch role =>
      rw [Role.attempt?_next] at trying
      cases batch : g.batch <;> rw [batch] at trying <;> cases trying
    | rise role => cases trying
  · cases event <;> cases new <;> cases trying

/-- A change of main wakes whoever was parked, unless main is up or down as before. -/
theorem Attentive.setMonitor (attentive : g.Attentive) {source : Source} {monitor : Monitor}
    (next : (g.health.get source).Next monitor) : (g.setMonitor source monitor).Attentive := by
  cases source with
  | fallback =>
    refine ⟨?_, fun task payload payment parked ↦ ?_⟩
    · rw [setMonitor_eq]
      exact attentive.candid
    · rw [attemptOf_setMonitor, if_neg (by simp)] at parked
      rw [setMonitor_eq]
      exact attentive.parked task payload payment parked
  | main =>
    refine ⟨?_, fun task payload payment parked ↦ ?_⟩
    · rw [setMonitor_eq]
      exact attentive.candid.next next
    · rw [setMonitor_eq]
      rw [attemptOf_setMonitor] at parked
      split at parked
      · -- whoever was parked is awake now
        obtain ⟨⟨_, stage⟩, -, woken⟩ := Option.map_eq_some_iff.mp parked
        cases stage <;> cases woken
      · next same =>
        have same : monitor.isUp = g.health.main.isUp := by simpa using same
        exact same.trans (attentive.parked task payload payment parked)

/-- **No step leaves a payment asleep while main is up.** -/
theorem Attentive.step [Parcel α] (attentive : g.Attentive) (event : Event α) :
    (g.step event).1.Attentive := by
  rcases health_step g event with ⟨source, monitor, next, changed⟩ | ⟨same, -⟩
  · rw [changed]
    exact attentive.setMonitor next
  · refine ⟨same ▸ attentive.candid, fun task payload payment parked ↦ ?_⟩
    rw [same]
    rcases parked_step parked with before | unseen
    · exact attentive.parked task payload payment before
    · exact attentive.candid.symm.trans unseen

theorem Attentive.run [Parcel α] (attentive : g.Attentive) (events : List (Event α)) :
    (g.run events).1.Attentive :=
  run_induction (I := Attentive) (fun _ event _ attentive ↦ attentive.step event) attentive

/-! ## No wake-up is lost -/

/-- **Whatever happens before its task's next turn**, and whether a payment is parked or about to
look until then, that turn is decided by main as it is at that moment. -/
theorem Attentive.turn_after [Parcel α] (attentive : g.Attentive)
    (waits : g.Waits task payload payment) {between : List (Event α)}
    (others : ∀ requestedAt, .run task requestedAt ∉ between) (requestedAt : Millis) :
    ((g.run between).1.step (.run task requestedAt)).1.attemptOf task = some ⟨payload,
      if (g.run between).1.health.main.isUp then .choosing payment else .parked payment⟩ :=
  (attentive.run between).turn (waits.run others) requestedAt

/-- **A payment stops waiting in its own task's turn alone**, and only while main is up: then it
chooses anew. -/
theorem Attentive.of_not_waits [Parcel α] (attentive : g.Attentive)
    (before : g.Waits task payload payment) {event : Event α}
    (after : ¬ (g.step event).1.Waits task payload payment) :
    (∃ requestedAt, event = .run task requestedAt) ∧ g.health.main.isUp = true ∧
      (g.step event).1.attemptOf task = some ⟨payload, .choosing payment⟩ := by
  by_cases own : ∃ requestedAt, event = .run task requestedAt
  · obtain ⟨requestedAt, rfl⟩ := own
    have turn := attentive.turn before requestedAt
    cases up : g.health.main.isUp with
    | true =>
      rw [up, if_pos rfl] at turn
      exact ⟨⟨requestedAt, rfl⟩, rfl, turn⟩
    | false =>
      rw [up, if_neg Bool.false_ne_true] at turn
      exact absurd (Or.inr turn) after
  · exact absurd (before.step (not_exists.mp own)) after

/-- **Where no task can go on by itself, main is down** if any payment has no processor yet, and all
those payments are parked. -/
theorem Attentive.still (attentive : g.Attentive) (still : ∀ t ∈ g.tasks, t.isRunnable = false)
    {attempt : Attempt α} (there : g.attemptOf task = some attempt)
    (uncalled : attempt.call? = none) :
    (∃ payment, attempt.stage = .parked payment) ∧ g.health.main.isUp = false := by
  obtain ⟨role, rest, taken, at_⟩ := exists_of_attemptOf there
  have idle := still _ (Array.mem_of_getElem? at_)
  obtain ⟨payload, stage⟩ := attempt
  cases stage with
  | parked payment => exact ⟨⟨payment, rfl⟩, attentive.parked task payload payment there⟩
  | calling payment source requestedAt => cases uncalled
  | _ => cases idle

/-- **No wake-up is lost.** Whatever tasks come to wait for a monitor, and in whatever order it goes
down, goes up and is brought up by timers,

* nobody is parked unless it is down;
* where no task can go on by itself, everybody who waits is parked, and it is down;
* a task is released by its own turn alone, and only while it is up;
* whatever happens before a waiting task's next turn, in that turn it is released if the monitor is
  up, and parked if it is not.

Payments that wait for main in a gateway are tasks of that kind: to be released is to choose a
processor anew. Where no task of a gateway can go on by itself, every payment that has no processor
yet is parked, and main is down. -/
theorem no_wakeup_lost :
    (∀ (source : Source) (delay : Ticks) (events : List Watch.Event),
      let w := (Watch.new source delay).run events
      (∀ i : Nat, w.waiters[i]? = some .parked → w.monitor.isUp = false) ∧
        (.runnable ∉ w.waiters →
          ∀ i, w.Waits i → w.waiters[i]? = some .parked ∧ w.monitor.isUp = false) ∧
        (∀ (i : Nat) (event : Watch.Event), w.waiters[i]? ≠ some .released →
          (w.step event).waiters[i]? = some .released →
            event = .run i ∧ w.waiters[i]? = some .runnable ∧ w.monitor.isUp = true) ∧
        ∀ (i : Nat) (between : List Watch.Event), w.Waits i → .run i ∉ between →
          ((w.run between).step (.run i)).waiters[i]? =
            some (if (w.run between).monitor.isUp then .released else .parked)) ∧
      ∀ (terms : Terms) (events : List (Event String)),
        let g := ((new terms).run events).1
        (∀ task payload payment, g.attemptOf task = some ⟨payload, .parked payment⟩ →
          g.health.main.isUp = false) ∧
          ((∀ t ∈ g.tasks, t.isRunnable = false) →
            ∀ task attempt, g.attemptOf task = some attempt → attempt.call? = none →
              (∃ payment, attempt.stage = .parked payment) ∧ g.health.main.isUp = false) ∧
          (∀ task payload payment event, g.Waits task payload payment →
            ¬ (g.step event).1.Waits task payload payment →
              (∃ requestedAt, event = .run task requestedAt) ∧ g.health.main.isUp = true ∧
                (g.step event).1.attemptOf task = some ⟨payload, .choosing payment⟩) ∧
          ∀ task payload payment between requestedAt, g.Waits task payload payment →
            (∀ at_, .run task at_ ∉ between) →
              ((g.run between).1.step (.run task requestedAt)).1.attemptOf task = some ⟨payload,
                if (g.run between).1.health.main.isUp then .choosing payment
                else .parked payment⟩ := by
  constructor
  · intro source delay events w
    have attentive : w.Attentive := (Watch.attentive_new source delay).run events
    refine ⟨attentive.parked, ?_, ?_, ?_⟩
    · intro still i waits
      exact attentive.still still waits
    · intro i event before after
      exact attentive.of_released before after
    · intro i between waits others
      exact attentive.turn_after waits others
  · intro terms events g
    have attentive : g.Attentive := (attentive_new terms).run events
    refine ⟨attentive.parked, ?_, ?_, ?_⟩
    · intro still task attempt there uncalled
      exact attentive.still still there uncalled
    · intro task payload payment event before after
      exact attentive.of_not_waits before after
    · intro task payload payment between requestedAt waits others
      exact attentive.turn_after waits others requestedAt

/-- Main goes down, and a payload is handed in whose payment comes to wait for it. -/
def whileDown : List (Event String) :=
  [.markDown .main 0, .ingest "\x7b\"correlationId\":\"a\",\"amount\":1\x7d", .run 0 0, .run 0 0,
    .run 0 0]

/-- Main goes up and down again before the task of a waiting payment has its turn: the payment is
parked again, and so is a task that waits for a monitor on its own. -/
theorem parked_again_after_flapping :
    let w := (Watch.new .main 1000).run [.markDown 0, .join, .run 0]
    let g := ((new ⟨false, 1, 1, 1000⟩).run whileDown).1
    let payment : Payment := ⟨"a", ⟨false, 1, 0, by decide, by decide⟩⟩
    w.waiters = #[.parked] ∧ (w.run [.markUp]).waiters = #[.runnable] ∧
      ((w.run [.markUp, .markDown 5]).step (.run 0)).waiters[0]? = some .parked ∧
      (∀ t ∈ g.tasks, t.isRunnable = false) ∧ g.health.main.isUp = false ∧
      ((g.run [.markUp .main, .markDown .main 5]).1.step (.run 0 7)).1.attemptOf 0
        = some ⟨"\x7b\"correlationId\":\"a\",\"amount\":1\x7d", .parked payment⟩ := by
  intro w g payment
  obtain ⟨watch, gateway⟩ := no_wakeup_lost
  obtain ⟨-, -, -, watched⟩ := watch .main 1000 [.markDown 0, .join, .run 0]
  obtain ⟨asleep, -, -, blocked⟩ := gateway ⟨false, 1, 1, 1000⟩ whileDown
  have parked : g.attemptOf 0
      = some ⟨"\x7b\"correlationId\":\"a\",\"amount\":1\x7d", .parked payment⟩ := by
    decide +kernel
  refine ⟨by decide +kernel, by decide +kernel, ?_, by decide +kernel,
    asleep 0 _ payment parked, ?_⟩
  · exact watched 0 [.markUp, .markDown 5] ⟨.parked, by decide +kernel, by decide⟩ (by decide)
  · have down : (g.run [.markUp .main, .markDown .main 5]).1.health.main.isUp = false := by
      decide +kernel
    have turn := blocked 0 _ payment [.markUp .main, .markDown .main 5] 7 (Or.inr parked)
      (fun _ ↦ by simp)
    rw [down, if_neg Bool.false_ne_true] at turn
    exact turn

end Gateway

end PaymentRelay
