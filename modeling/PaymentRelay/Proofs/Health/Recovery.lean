import Mathlib.Data.List.Chain
import PaymentRelay.Health.Recovery

/-!
# A monitor and its timers

A monitor is up exactly while no timer is armed, and what it publishes is what it is. The armed
timer is the only one that can bring it up, except where the recovery delay is zero: then a timer
that was disarmed too late may have the very deadline of the one that is armed now. Even so it does
not come too early, since a timer does not wake before its deadline.

`Sound` says all this of one state, together with what is needed to keep it true: a timer that is
not armed any more, and not over either, has its deadline behind it, so every timer that is set
later has a deadline that is later by the recovery delay at least.
-/

namespace PaymentRelay

namespace Monitor

variable {m : Monitor} {now deadline : Ticks}

theorem markDown_of_down (down : m.isUp = false) (armed : m.deadline ≠ none) :
    m.markDown now = m := by
  obtain ⟨deadline, armed⟩ := Option.ne_none_iff_exists'.mp armed
  obtain ⟨source, delay, isUp, _, published⟩ := m
  simp_all [markDown]

theorem markUp_of_up (up : m.isUp = true) (disarmed : m.deadline = none) : m.markUp = m := by
  obtain ⟨source, delay, isUp, _, published⟩ := m
  simp_all [markUp, rise]

theorem expire_of_ne (other : m.deadline ≠ some deadline) : m.expire deadline = m :=
  if_neg other

theorem expire_of_eq (same : m.deadline = some deadline) : m.expire deadline = m.markUp :=
  if_pos same

end Monitor

namespace Recovery

open Timer (Phase)

/-- What holds of a monitor and its timers between any two steps. -/
structure Sound (r : Recovery) : Prop where
  /-- The monitor is up exactly while no timer is armed. -/
  up_iff : r.monitor.isUp = true ↔ r.armed = none
  /-- What is published is what the monitor is. -/
  published : r.monitor.published = r.monitor.isUp
  /-- Where no timer is armed, the monitor waits for no deadline. -/
  unarmed : r.armed = none → r.monitor.deadline = none
  /-- The armed timer is not over, and the monitor waits for its deadline. -/
  armed : ∀ i, r.armed = some i → ∃ timer, r.timers[i]? = some timer ∧ timer.phase ≠ .ended ∧
    r.monitor.deadline = some timer.deadline
  /-- A timer does not wake before its deadline. -/
  woken : ∀ (i : Nat) (timer : Timer), r.timers[i]? = some timer → timer.phase = .awake →
    timer.deadline ≤ r.now
  /-- A timer that sleeps is the armed one, unless there is no delay. -/
  asleep : ∀ (i : Nat) (timer : Timer), r.timers[i]? = some timer → timer.phase = .asleep →
    r.armed = some i ∨ (r.monitor.delay = 0 ∧ timer.deadline ≤ r.now)
  /-- The armed timer was set when all others that are not over had their deadlines behind them. -/
  stale : ∀ (i : Nat) (timer : Timer) (deadline : Ticks), r.timers[i]? = some timer →
    timer.phase ≠ .ended → r.armed ≠ some i → r.monitor.deadline = some deadline →
    timer.deadline + r.monitor.delay ≤ deadline

variable {r : Recovery} {i j : Nat} {timer : Timer}

/-! ## What a timer can do -/

theorem step_wake (r : Recovery) (i : Nat) :
    r.step (.wake i) = (r, []) ∨ ∃ deadline, r.timers[i]? = some ⟨deadline, .asleep⟩ ∧
      deadline ≤ r.now ∧ r.step (.wake i) = (r.setPhase i ⟨deadline, .asleep⟩ .awake, []) := by
  rw [step]
  split
  · next deadline there =>
    split
    · next due => exact Or.inr ⟨deadline, there, due, rfl⟩
    · exact Or.inl rfl
  · exact Or.inl rfl

/-- A timer that has woken is over once it has come back, and it brings the monitor up if the
monitor waits for the deadline that it has. -/
theorem step_comeBack (r : Recovery) (i : Nat) :
    r.step (.comeBack i) = (r, []) ∨ ∃ deadline, r.timers[i]? = some ⟨deadline, .awake⟩ ∧
      (r.monitor.deadline = some deadline ∧ r.step (.comeBack i) =
          ({ r.setPhase i ⟨deadline, .awake⟩ .ended with
              monitor := r.monitor.markUp, armed := none }, r.monitor.goingUp) ∨
        r.monitor.deadline ≠ some deadline ∧
          r.step (.comeBack i) = (r.setPhase i ⟨deadline, .awake⟩ .ended, [])) := by
  rw [step]
  split
  · next deadline there =>
    refine Or.inr ⟨deadline, there, ?_⟩
    by_cases same : r.monitor.deadline = some deadline
    · refine Or.inl ⟨same, ?_⟩
      rw [comeBack, Monitor.expire_of_eq same, if_pos same, if_pos same]
    · refine Or.inr ⟨same, ?_⟩
      rw [comeBack, Monitor.expire_of_ne same, if_neg same, if_neg same]
      rfl
  · exact Or.inl rfl

/-! ## Each step -/

theorem Sound.deadline_eq_none_iff (sound : r.Sound) :
    r.monitor.deadline = none ↔ r.armed = none := by
  refine ⟨fun none_ ↦ ?_, sound.unarmed⟩
  by_contra some_
  obtain ⟨i, armed⟩ := Option.ne_none_iff_exists'.mp some_
  obtain ⟨timer, -, -, deadline⟩ := sound.armed i armed
  simp [none_] at deadline

/-- A timer that is not over and not armed has its deadline behind it. -/
theorem Sound.past (sound : r.Sound) (there : r.timers[i]? = some timer)
    (live : timer.phase ≠ .ended) (other : r.armed ≠ some i) : timer.deadline ≤ r.now := by
  cases phase : timer.phase with
  | asleep => exact ((sound.asleep i timer there phase).resolve_left other).2
  | awake => exact sound.woken i timer there phase
  | ended => exact absurd phase live

theorem sound_new (source : Source) (delay began : Ticks) : (new source delay began).Sound where
  up_iff := by simp [new, Monitor.new]
  published := rfl
  unarmed _ := rfl
  armed := by simp [new]
  woken := by simp [new]
  asleep := by simp [new]
  stale := by simp [new]

theorem Sound.markDown_of_down (sound : r.Sound) (down : r.monitor.isUp = false) :
    r.markDown = r := by
  have armed : r.monitor.deadline ≠ none := by
    rw [Ne, sound.deadline_eq_none_iff, ← sound.up_iff, down]
    simp
  rw [markDown, if_neg armed, Monitor.markDown_of_down down armed]

theorem Sound.markUp_of_up (sound : r.Sound) (up : r.monitor.isUp = true) : r.markUp = r := by
  have free := sound.up_iff.mp up
  have waits := sound.unarmed free
  obtain ⟨monitor, timers, armed, now⟩ := r
  cases free
  simp [Recovery.markUp, disarmed, Monitor.markUp_of_up up waits]

theorem Sound.markDown (sound : r.Sound) : r.markDown.Sound := by
  cases up : r.monitor.isUp with
  | false => rwa [sound.markDown_of_down up]
  | true =>
    have free := sound.up_iff.mp up
    have waits := sound.unarmed free
    rw [Recovery.markDown, if_pos waits]
    constructor
    · simp [Monitor.markDown]
    · simp [Monitor.markDown, up]
    · simp
    · intro i armed
      cases armed
      exact ⟨_, Array.getElem?_push_size, by simp, by simp [Monitor.markDown, waits]⟩
    · intro i timer there awake
      rw [Array.getElem?_push] at there
      split at there
      · cases there
        cases awake
      · exact sound.woken i timer there awake
    · intro i timer there asleep
      rw [Array.getElem?_push] at there
      split at there
      · next last => exact Or.inl (by rw [last])
      · exact Or.inr ((sound.asleep i timer there asleep).resolve_left (by simp [free]))
    · intro i timer deadline there live other set
      rw [Array.getElem?_push] at there
      split at there
      · next last => simp [last] at other
      · have past := sound.past there live (by simp [free])
        simp only [Monitor.markDown, waits, Option.getD_none, Option.some.injEq] at set ⊢
        rw [← set]
        exact Nat.add_le_add_right past _

theorem getElem?_disarmed (r : Recovery) (i : Nat) : r.disarmed[i]? =
    if r.armed = some i then r.timers[i]?.map Timer.disarm else r.timers[i]? := by
  unfold disarmed
  cases armed : r.armed with
  | none => simp
  | some j => simp [Array.getElem?_modify]

theorem Sound.markUp (sound : r.Sound) : r.markUp.Sound := by
  have same : ∀ (i : Nat) (timer : Timer), r.disarmed[i]? = some timer → timer.phase ≠ .ended →
      r.timers[i]? = some timer ∧ (timer.phase = .asleep → r.armed ≠ some i) := by
    intro i timer there live
    rw [getElem?_disarmed] at there
    split at there
    · obtain ⟨before, there, rfl⟩ := Option.map_eq_some_iff.mp there
      obtain ⟨deadline, _ | _ | _⟩ := before <;> simp_all [Timer.disarm]
    · next other => exact ⟨there, fun _ ↦ other⟩
  constructor
  · simp [Recovery.markUp, Monitor.markUp, Monitor.rise]
  · cases up : r.monitor.isUp <;>
      simp [Recovery.markUp, Monitor.markUp, Monitor.rise, up, sound.published]
  · simp [Recovery.markUp, Monitor.markUp]
  · simp [Recovery.markUp]
  · intro i timer there awake
    exact sound.woken i timer (same i timer there (by simp [awake])).1 awake
  · intro i timer there asleep
    obtain ⟨there, other⟩ := same i timer there (by simp [asleep])
    exact Or.inr ((sound.asleep i timer there asleep).resolve_left (other asleep))
  · simp [Recovery.markUp, Monitor.markUp]

theorem getElem?_setPhase (there : r.timers[i]? = some timer) (phase : Phase) (j : Nat) :
    (r.setPhase i timer phase).timers[j]? =
      if j = i then some { timer with phase } else r.timers[j]? := by
  have within : i < r.timers.size := (Array.getElem?_eq_some_iff.mp there).1
  simp only [setPhase, Array.getElem?_setIfInBounds, within, if_true, eq_comm]

theorem Sound.wake {deadline : Ticks} (sound : r.Sound)
    (there : r.timers[i]? = some ⟨deadline, .asleep⟩) (due : deadline ≤ r.now) :
    (r.setPhase i ⟨deadline, .asleep⟩ .awake).Sound where
  up_iff := sound.up_iff
  published := sound.published
  unarmed := sound.unarmed
  armed j armed := by
    obtain ⟨timer, before, live, waits⟩ := sound.armed j armed
    rw [getElem?_setPhase there]
    split
    · next here =>
      rw [here, there] at before
      cases before
      exact ⟨_, rfl, by simp, waits⟩
    · exact ⟨timer, before, live, waits⟩
  woken j timer before awake := by
    rw [getElem?_setPhase there] at before
    split at before
    · cases before
      exact due
    · exact sound.woken j timer before awake
  asleep j timer before asleep := by
    rw [getElem?_setPhase there] at before
    split at before
    · cases before
      cases asleep
    · exact sound.asleep j timer before asleep
  stale j timer waits before live other set := by
    rw [getElem?_setPhase there] at before
    split at before
    · next here =>
      cases before
      exact sound.stale i ⟨deadline, .asleep⟩ waits there (by simp) (here ▸ other) set
    · exact sound.stale j timer waits before live other set

/-- A timer that is not armed and has the deadline of the armed one is there only without delay. -/
theorem Sound.delay_eq_zero (sound : r.Sound) (there : r.timers[i]? = some timer)
    (live : timer.phase ≠ .ended) (other : r.armed ≠ some i)
    (same : r.monitor.deadline = some timer.deadline) : r.monitor.delay = 0 :=
  Nat.le_zero.mp (Nat.le_of_add_le_add_left (sound.stale i timer _ there live other same))

theorem before_of_setPhase_ended {old : Timer} (there : r.timers[i]? = some timer)
    (after : (r.setPhase i timer .ended).timers[j]? = some old) (live : old.phase ≠ .ended) :
    j ≠ i ∧ r.timers[j]? = some old := by
  rw [getElem?_setPhase there] at after
  split at after
  · cases after
    exact absurd rfl live
  · next other => exact ⟨other, after⟩

theorem Sound.recover {deadline : Ticks} (sound : r.Sound)
    (there : r.timers[i]? = some ⟨deadline, .awake⟩) (same : r.monitor.deadline = some deadline) :
    Sound { r.setPhase i ⟨deadline, .awake⟩ .ended with
      monitor := r.monitor.markUp, armed := none } := by
  constructor
  · simp [Monitor.markUp, Monitor.rise]
  · cases up : r.monitor.isUp <;> simp [Monitor.markUp, Monitor.rise, up, sound.published]
  · simp [Monitor.markUp]
  · simp
  · intro j timer after awake
    obtain ⟨-, before⟩ := before_of_setPhase_ended there after (by simp [awake])
    exact sound.woken j timer before awake
  · intro j timer after asleep
    obtain ⟨other, before⟩ := before_of_setPhase_ended there after (by simp [asleep])
    refine Or.inr ?_
    rcases sound.asleep j timer before asleep with armed | due
    · -- the timer that came back was not the armed one, and yet had its deadline
      obtain ⟨timer', there', -, waits⟩ := sound.armed j armed
      obtain rfl := Option.some.inj (before.symm.trans there')
      obtain rfl := Option.some.inj (same.symm.trans waits)
      have stale : r.armed ≠ some i := by simp [armed, other]
      exact ⟨sound.delay_eq_zero there (by simp) stale same, sound.woken i ⟨_, .awake⟩ there rfl⟩
    · exact due
  · simp [Monitor.markUp]

/-- The timer that comes back has another deadline: it is over, and that is all. -/
theorem Sound.lapse {deadline : Ticks} (sound : r.Sound)
    (there : r.timers[i]? = some ⟨deadline, .awake⟩) (late : r.monitor.deadline ≠ some deadline) :
    (r.setPhase i ⟨deadline, .awake⟩ .ended).Sound where
  up_iff := sound.up_iff
  published := sound.published
  unarmed := sound.unarmed
  armed j armed := by
    obtain ⟨timer, before, live, waits⟩ := sound.armed j armed
    have other : j ≠ i := by
      rintro rfl
      obtain rfl := Option.some.inj (there.symm.trans before)
      exact late waits
    exact ⟨timer, by rw [getElem?_setPhase there, if_neg other, before], live, waits⟩
  woken j timer after awake := by
    obtain ⟨-, before⟩ := before_of_setPhase_ended there after (by simp [awake])
    exact sound.woken j timer before awake
  asleep j timer after asleep := by
    obtain ⟨-, before⟩ := before_of_setPhase_ended there after (by simp [asleep])
    exact sound.asleep j timer before asleep
  stale j timer waits after live := by
    obtain ⟨-, before⟩ := before_of_setPhase_ended there after live
    exact sound.stale j timer waits before live

theorem Sound.pass (sound : r.Sound) (span : Ticks) : Sound { r with now := r.now + span } :=
  { sound with
    woken := fun i timer there awake ↦
      Nat.le_add_right_of_le (sound.woken i timer there awake)
    asleep := fun i timer there asleep ↦
      (sound.asleep i timer there asleep).imp_right (And.imp_right Nat.le_add_right_of_le) }

/-- **What holds of a monitor and its timers is kept by every step.** -/
theorem Sound.step (sound : r.Sound) (event : Event) : (r.step event).1.Sound := by
  cases event with
  | markDown => exact sound.markDown
  | markUp => exact sound.markUp
  | wake i =>
    rcases step_wake r i with same | ⟨deadline, there, due, moved⟩
    · rwa [same]
    · rw [moved]
      exact sound.wake there due
  | comeBack i =>
    rcases step_comeBack r i with same | ⟨deadline, there, ⟨waits, moved⟩ | ⟨late, moved⟩⟩
    · rwa [same]
    · rw [moved]
      exact sound.recover there waits
    · rw [moved]
      exact sound.lapse there late
  | pass span => exact sound.pass span

theorem Sound.run (sound : r.Sound) (events : List Event) : (r.run events).1.Sound := by
  induction events generalizing r with
  | nil => exact sound
  | cons event events ih => exact ih (sound.step event)

/-! ## What is published -/

/-- What a step makes of the monitor is what a single operation makes of it, or nothing. -/
theorem monitor_step (r : Recovery) (event : Event) :
    (r.step event).1.monitor = r.monitor ∧ (r.step event).2 = [] ∨
      (r.step event).1.monitor = r.monitor.markDown r.now ∧
        (r.step event).2 = r.monitor.goingDown ∨
      (r.step event).1.monitor = r.monitor.markUp ∧ (r.step event).2 = r.monitor.goingUp := by
  cases event with
  | markDown =>
    refine Or.inr (Or.inl ⟨?_, rfl⟩)
    rw [Recovery.step, Recovery.markDown]
    split <;> rfl
  | markUp => exact Or.inr (Or.inr ⟨rfl, rfl⟩)
  | wake i =>
    refine Or.inl ?_
    rcases step_wake r i with same | ⟨deadline, there, due, moved⟩
    · simp [same]
    · simp [moved, setPhase]
  | comeBack i =>
    rcases step_comeBack r i with same | ⟨deadline, there, ⟨waits, moved⟩ | ⟨late, moved⟩⟩
    · simp [same]
    · simp [moved]
    · simp [moved, setPhase]
  | pass span => exact Or.inl ⟨rfl, rfl⟩

@[simp] theorem source_step (r : Recovery) (event : Event) :
    (r.step event).1.monitor.source = r.monitor.source := by
  rcases monitor_step r event with ⟨same, -⟩ | ⟨same, -⟩ | ⟨same, -⟩ <;> rw [same] <;> rfl

@[simp] theorem delay_step (r : Recovery) (event : Event) :
    (r.step event).1.monitor.delay = r.monitor.delay := by
  rcases monitor_step r event with ⟨same, -⟩ | ⟨same, -⟩ | ⟨same, -⟩ <;> rw [same] <;> rfl

theorem delay_run (r : Recovery) (events : List Event) :
    (r.run events).1.monitor.delay = r.monitor.delay := by
  induction events generalizing r with
  | nil => rfl
  | cons event events ih => exact (ih _).trans (delay_step r event)

theorem published_step (r : Recovery) (event : Event) :
    (r.step event).2 = [] ∧ (r.step event).1.monitor.isUp = r.monitor.isUp ∨
      (r.step event).2 = [!r.monitor.isUp] ∧ (r.step event).1.monitor.isUp = !r.monitor.isUp := by
  rcases monitor_step r event with ⟨same, said⟩ | ⟨same, said⟩ | ⟨same, said⟩ <;>
    rw [same, said] <;> cases up : r.monitor.isUp <;>
    simp [Monitor.goingDown, Monitor.goingUp, Monitor.markDown, Monitor.markUp, Monitor.rise, up]

theorem isChain_published (r : Recovery) (events : List Event) :
    (r.monitor.isUp :: (r.run events).2).IsChain (· ≠ ·) := by
  induction events generalizing r with
  | nil => simp [run]
  | cons event events ih =>
    have rest := ih (r.step event).1
    rw [run]
    dsimp only
    rcases published_step r event with ⟨said, up⟩ | ⟨said, up⟩
    · rw [said, List.nil_append, ← up]
      exact rest
    · rw [said, List.singleton_append, List.isChain_cons_cons, ← up]
      exact ⟨by simp [up], rest⟩

/-- What the operator is told of the changes in a run. -/
def reports (r : Recovery) : List Event → List String
  | [] => []
  | event :: events =>
    let next := (r.step event).1
    (Monitor.report r.monitor next.monitor).toList ++ next.reports events

theorem reports_eq (r : Recovery) (events : List Event) :
    r.reports events = (r.run events).2.map r.monitor.line := by
  induction events generalizing r with
  | nil => rfl
  | cons event events ih =>
    have line : (r.step event).1.monitor.line = r.monitor.line := by
      funext up
      simp [Monitor.line]
    rw [reports, run]
    dsimp only
    rw [ih, line, List.map_append]
    congr 1
    rcases published_step r event with ⟨said, up⟩ | ⟨said, up⟩
    · simp [Monitor.report, said, up]
    · rw [Monitor.report, said, up]
      cases r.monitor.isUp <;> simp [Monitor.line]

/-! ## Every reachable state -/

/-- A timer that comes back leaves the monitor alone, or the deadline of the armed one has come. -/
theorem Sound.monitor_comeBack (sound : r.Sound) (i : Nat) :
    (r.step (.comeBack i)).1.monitor = r.monitor ∨
      ∃ deadline, r.monitor.deadline = some deadline ∧ deadline ≤ r.now ∧
        (r.armed = some i ∨ r.monitor.delay = 0) := by
  rcases step_comeBack r i with same | ⟨deadline, there, ⟨waits, -⟩ | ⟨-, moved⟩⟩
  · exact Or.inl (by rw [same])
  · refine Or.inr ⟨deadline, waits, sound.woken i _ there rfl, ?_⟩
    refine or_iff_not_imp_left.mpr fun stale ↦ ?_
    exact sound.delay_eq_zero there (by simp) stale waits
  · exact Or.inl (by rw [moved, setPhase])

/-- **A monitor and its timers keep step.** After any events at any times, in any order, the monitor
is up exactly while no timer is armed; it waits for the deadline of the armed timer, which is the
only one that sleeps unless there is no delay; and what it publishes is what it is. To be found up
while it is up changes nothing, and neither does being found down while it is down. A timer that
comes back makes no difference before the deadline of the one that is armed, and if it is not that
one, then only where there is no delay. What is published goes down and up by turns, and so do the
reports. -/
theorem monitor_keeps_step_with_timers (source : Source) (delay began : Ticks)
    (events : List Event) :
    let r := ((new source delay began).run events).1
    let published := ((new source delay began).run events).2
    ((r.monitor.isUp = true ↔ r.armed = none) ∧ r.monitor.published = r.monitor.isUp) ∧
      (∀ deadline, r.monitor.deadline = some deadline ↔ ∃ i phase, r.armed = some i ∧
        r.timers[i]? = some ⟨deadline, phase⟩ ∧ phase ≠ .ended) ∧
      (∀ i deadline, r.timers[i]? = some ⟨deadline, .asleep⟩ →
        r.armed = some i ∨ (delay = 0 ∧ deadline ≤ r.now)) ∧
      (r.monitor.isUp = true → r.step .markUp = (r, [])) ∧
      (r.monitor.isUp = false → r.step .markDown = (r, [])) ∧
      (∀ i, (r.step (.comeBack i)).1.monitor = r.monitor ∨
        ∃ deadline, r.monitor.deadline = some deadline ∧ deadline ≤ r.now ∧
          (r.armed = some i ∨ delay = 0)) ∧
      (true :: published).IsChain (· ≠ ·) ∧
      (new source delay began).reports events = published.map (Monitor.new source delay).line := by
  intro r published
  have sound : r.Sound := (sound_new source delay began).run events
  have same : r.monitor.delay = delay := delay_run _ events
  refine ⟨⟨sound.up_iff, sound.published⟩, fun deadline ↦ ⟨fun waits ↦ ?_, ?_⟩,
    fun i deadline there ↦ same ▸ sound.asleep i _ there rfl, fun up ↦ ?_, fun down ↦ ?_,
    fun i ↦ same ▸ sound.monitor_comeBack i, isChain_published (new source delay began) events,
    reports_eq (new source delay began) events⟩
  · have some_ : r.armed ≠ none := by
      rw [Ne, ← sound.deadline_eq_none_iff, waits]
      simp
    obtain ⟨i, armed⟩ := Option.ne_none_iff_exists'.mp some_
    obtain ⟨⟨first, phase⟩, there, live, first_waits⟩ := sound.armed i armed
    cases waits.symm.trans first_waits
    exact ⟨i, phase, armed, there, live⟩
  · rintro ⟨i, phase, armed, there, -⟩
    obtain ⟨timer, there', -, waits⟩ := sound.armed i armed
    cases there.symm.trans there'
    exact waits
  · exact Prod.ext (sound.markUp_of_up up) (if_pos up)
  · exact Prod.ext (sound.markDown_of_down down) (by simp [step, Monitor.goingDown, down])

end Recovery

end PaymentRelay
