import Mathlib.Data.List.Infix
import PaymentRelay.Proofs.Health.Recovery

/-!
# How long a monitor is down

A monitor that goes down waits for one deadline until it goes up again, however often it is found to
be down in between. Three things can come first: it is found to be up, its own timer comes back, or,
where there is no delay, an earlier one with the same deadline does. No timer comes back before its
deadline, so only the first of these can make the time shorter.

Nothing can make it longer in a run that is punctual: where no time passes beyond the deadline of a
timer that is not over. The armed timer is none that is over, so time stops at its deadline until it
has come back.
-/

namespace PaymentRelay.Recovery

variable {r : Recovery} {event : Event} {events : List Event} {own : Nat} {due : Ticks}

/-! ## Runs -/

theorem run_append (r : Recovery) (events more : List Event) :
    (r.run (events ++ more)).1 = ((r.run events).1.run more).1 := by
  induction events generalizing r with
  | nil => rfl
  | cons event events ih => exact ih (r.step event).1

theorem run_concat (r : Recovery) (events : List Event) (event : Event) :
    (r.run (events ++ [event])).1 = ((r.run events).1.step event).1 :=
  run_append r events [event]

theorem now_le_step (r : Recovery) (event : Event) : r.now ≤ (r.step event).1.now := by
  cases event with
  | markDown =>
    rw [step, markDown]
    split <;> exact Nat.le_refl _
  | markUp => exact Nat.le_refl _
  | wake i =>
    rcases step_wake r i with same | ⟨deadline, -, -, moved⟩
    · rw [same]
    · rw [moved, setPhase]
  | comeBack i =>
    rcases step_comeBack r i with same | ⟨deadline, -, ⟨-, moved⟩ | ⟨-, moved⟩⟩
    · rw [same]
    · rw [moved, setPhase]
    · rw [moved, setPhase]
  | pass span => exact Nat.le_add_right _ _

theorem now_le_run (r : Recovery) (events : List Event) : r.now ≤ (r.run events).1.now := by
  induction events generalizing r with
  | nil => exact Nat.le_refl _
  | cons event events ih => exact Nat.le_trans (now_le_step r event) (ih _)

theorem now_le_of_start {part : List Event} (start : part <+: events) :
    (r.run part).1.now ≤ (r.run events).1.now := by
  obtain ⟨more, rfl⟩ := start
  rw [run_append]
  exact now_le_run _ more

/-- Time passes no further than to the deadline of a timer that is not over. -/
def Event.IsPunctual (r : Recovery) : Event → Prop
  | .pass span => ∀ timer ∈ r.timers.toList, timer.phase ≠ .ended → r.now + span ≤ timer.deadline
  | _ => True

instance (r : Recovery) : DecidablePred (Event.IsPunctual r)
  | .pass span => inferInstanceAs (Decidable
      (∀ timer ∈ r.timers.toList, timer.phase ≠ .ended → r.now + span ≤ timer.deadline))
  | .markDown | .markUp | .wake _ | .comeBack _ => inferInstanceAs (Decidable True)

/-- Nowhere in a run does time pass beyond the deadline of a timer that is not over. -/
def Punctual (r : Recovery) : List Event → Prop
  | [] => True
  | event :: events => event.IsPunctual r ∧ (r.step event).1.Punctual events

instance decidablePunctual (r : Recovery) : (events : List Event) → Decidable (r.Punctual events)
  | [] => inferInstanceAs (Decidable True)
  | event :: events =>
    let _ := decidablePunctual (r.step event).1 events
    inferInstanceAs (Decidable (event.IsPunctual r ∧ (r.step event).1.Punctual events))

theorem punctual_append {more : List Event} :
    r.Punctual (events ++ more) ↔ r.Punctual events ∧ (r.run events).1.Punctual more := by
  induction events generalizing r with
  | nil => simp [Punctual, run]
  | cons event events ih => simp [Punctual, run, ih, and_assoc]

/-! ## One period -/

/-- The monitor is down, and the timer `own` is to bring it up at `due`. -/
structure Waits (r : Recovery) (own : Nat) (due : Ticks) : Prop where
  down : r.monitor.isUp = false
  armed : r.armed = some own
  deadline : r.monitor.deadline = some due
  now_le : r.now ≤ due

theorem Waits.timer (waits : r.Waits own due) (sound : r.Sound) :
    ∃ phase, r.timers[own]? = some ⟨due, phase⟩ ∧ phase ≠ .ended := by
  obtain ⟨⟨deadline, phase⟩, there, live, same⟩ := sound.armed own waits.armed
  obtain rfl := Option.some.inj (waits.deadline.symm.trans same)
  exact ⟨phase, there, live⟩

theorem Sound.waits_markDown (sound : r.Sound) (up : r.monitor.isUp = true) :
    r.markDown.Waits r.timers.size (r.now + r.monitor.delay) := by
  have none_ : r.monitor.deadline = none := sound.unarmed (sound.up_iff.mp up)
  rw [Recovery.markDown, if_pos none_]
  exact ⟨rfl, rfl, by simp [Monitor.markDown, none_], Nat.le_add_right _ _⟩

theorem Waits.setPhase (waits : r.Waits own due) (i : Nat) (timer : Timer) (phase : Timer.Phase) :
    (r.setPhase i timer phase).Waits own due :=
  ⟨waits.down, waits.armed, waits.deadline, waits.now_le⟩

/-- **A step in a period** leads on, or ends it: the monitor was found to be up, or a timer has come
back just when it was due. -/
theorem Waits.step (waits : r.Waits own due) (sound : r.Sound) (punctual : event.IsPunctual r) :
    (r.step event).1.Waits own due ∨
      ((r.step event).1.monitor.isUp = true ∧
        (event = .markUp ∨ ∃ i, event = .comeBack i ∧ r.now = due)) := by
  cases event with
  | markDown =>
    rw [Recovery.step, sound.markDown_of_down waits.down]
    exact Or.inl waits
  | markUp => exact Or.inr ⟨rfl, Or.inl rfl⟩
  | wake i =>
    refine Or.inl ?_
    rcases step_wake r i with same | ⟨deadline, -, -, moved⟩
    · rwa [same]
    · rw [moved]
      exact waits.setPhase i _ _
  | comeBack i =>
    rcases step_comeBack r i with same | ⟨deadline, there, ⟨same, moved⟩ | ⟨-, moved⟩⟩
    · exact Or.inl (by rwa [same])
    · -- a timer does not wake before its deadline, and this one has the deadline waited for
      obtain rfl := Option.some.inj (waits.deadline.symm.trans same)
      have late : due ≤ r.now := sound.woken i _ there rfl
      rw [moved]
      exact Or.inr ⟨rfl, Or.inr ⟨i, rfl, Nat.le_antisymm waits.now_le late⟩⟩
    · rw [moved]
      exact Or.inl (waits.setPhase i _ _)
  | pass span =>
    refine Or.inl ⟨waits.down, waits.armed, waits.deadline, ?_⟩
    obtain ⟨phase, there, live⟩ := waits.timer sound
    exact punctual _ (Array.mem_toList_iff.mpr (Array.mem_of_getElem? there)) live

/-- The monitor is down all through a run. -/
def DownThroughout (r : Recovery) (events : List Event) : Prop :=
  ∀ part, part <+: events → (r.run part).1.monitor.isUp = false

/-- As long as the monitor is down, it waits as it did when it went down. -/
theorem Waits.run (waits : r.Waits own due) (sound : r.Sound) (punctual : r.Punctual events)
    (down : r.DownThroughout events) : (r.run events).1.Waits own due := by
  induction events generalizing r with
  | nil => exact waits
  | cons event events ih =>
    obtain ⟨here, rest⟩ := punctual
    have still : (r.step event).1.Waits own due := by
      refine (waits.step sound here).resolve_right fun ended ↦ ?_
      have first : (r.step event).1.monitor.isUp = false := down [event] (by simp)
      rw [first] at ended
      cases ended.1
    exact ih still (sound.step event) rest fun part start ↦
      down (event :: part) (List.cons_prefix_cons.mpr ⟨rfl, start⟩)

/-- What brings a monitor up in a run: it is found to be up, or a timer comes back when due. -/
theorem Waits.rise {part : List Event} (waits : r.Waits own due) (sound : r.Sound)
    (punctual : r.Punctual (part ++ [event])) (down : r.DownThroughout part)
    (up : (r.run (part ++ [event])).1.monitor.isUp = true) :
    event = .markUp ∨ ∃ i, event = .comeBack i ∧ (r.run part).1.now = due := by
  obtain ⟨first, here, -⟩ := punctual_append.mp punctual
  rw [run_concat] at up
  refine (((waits.run sound first down).step (sound.run part) here).resolve_left fun still ↦ ?_).2
  rw [still.down] at up
  cases up

/-- A run that does not keep a monitor down has a first step that makes it go up. -/
theorem exists_rise (down : r.monitor.isUp = false) (ends : ¬ r.DownThroughout events) :
    ∃ part event, part ++ [event] <+: events ∧ r.DownThroughout part ∧
      (r.run (part ++ [event])).1.monitor.isUp = true := by
  induction events using List.reverseRecOn with
  | nil =>
    refine absurd (fun part start ↦ ?_) ends
    rw [List.prefix_nil.mp start]
    exact down
  | append_singleton events event ih =>
    by_cases before : r.DownThroughout events
    · refine ⟨events, event, List.prefix_refl _, before, ?_⟩
      by_contra still
      refine ends fun part start ↦ ?_
      rcases List.prefix_concat_iff.mp start with rfl | start
      · exact Bool.eq_false_iff.mpr still
      · exact before part start
    · obtain ⟨part, first, start, rest⟩ := ih before
      exact ⟨part, first, start.trans (List.prefix_append _ _), rest⟩

theorem Waits.up_of_awake (waits : r.Waits own due) (there : r.timers[own]? = some ⟨due, .awake⟩) :
    (r.step (.comeBack own)).1.monitor.isUp = true := by
  have back : r.step (.comeBack own) = (r.comeBack own ⟨due, .awake⟩, r.monitor.goingUp) := by
    simp [Recovery.step, there, waits.deadline]
  rw [back, comeBack, Monitor.expire_of_eq waits.deadline]
  rfl

theorem Waits.up_of_due (waits : r.Waits own due) (sound : r.Sound) (now_ : r.now = due) :
    (r.run [.wake own, .comeBack own]).1.monitor.isUp = true := by
  obtain ⟨phase, there, live⟩ := waits.timer sound
  cases phase with
  | asleep =>
    have woken : r.step (.wake own) = (r.setPhase own ⟨due, .asleep⟩ .awake, []) := by
      simp [Recovery.step, there, now_]
    have still : (r.step (.wake own)).1.Waits own due := by
      rw [woken]
      exact waits.setPhase own _ _
    refine still.up_of_awake ?_
    rw [woken]
    simp [getElem?_setPhase there]
  | awake =>
    have woken : r.step (.wake own) = (r, []) := by simp [Recovery.step, there]
    rw [Recovery.run, woken]
    exact waits.up_of_awake there
  | ended => exact absurd rfl live

/-- **A monitor stays down for the recovery delay, and no longer.** In a punctual run the monitor
goes down at some time. If it is not found to be up before the delay is over, it is down until then,
and goes up at the very time at which it is over. As long as it is down, whatever happens, the timer
that was set when it went down is the one that is armed, its deadline is the end of the delay, and
that is still to come; once it has come, the timer brings the monitor up. And whatever timer comes
back, that one or an earlier one, it does not bring the monitor up before the delay is over. -/
theorem down_for_the_delay {source : Source} {delay began : Ticks} {before after : List Event}
    (punctual : (new source delay began).Punctual (before ++ .markDown :: after))
    (up : ((new source delay began).run before).1.monitor.isUp = true) :
    let start := ((new source delay began).run before).1
    let own := start.timers.size
    let due := start.now + delay
    let fallen := (start.step .markDown).1
    ((∀ part, part ++ [.markUp] <+: after → due ≤ (fallen.run part).1.now) →
        (∀ part, part <+: after → (fallen.run part).1.now < due →
          (fallen.run part).1.monitor.isUp = false) ∧
        (due < (fallen.run after).1.now → ∃ part event, part ++ [event] <+: after ∧
          fallen.DownThroughout part ∧ (fallen.run part).1.now = due ∧
          (fallen.run (part ++ [event])).1.monitor.isUp = true)) ∧
      (∀ part, part <+: after → fallen.DownThroughout part →
        (fallen.run part).1.Waits own due ∧ ((fallen.run part).1.now = due →
          (fallen.run (part ++ [.wake own, .comeBack own])).1.monitor.isUp = true)) ∧
      (∀ part i, part ++ [.comeBack i] <+: after → fallen.DownThroughout part →
        (fallen.run (part ++ [.comeBack i])).1.monitor.isUp = true →
        (fallen.run part).1.now = due) := by
  intro start own due fallen
  have sound : start.Sound := (sound_new source delay began).run before
  have same : start.monitor.delay = delay := delay_run _ before
  have waits : fallen.Waits own (start.now + delay) := by
    rw [← same]
    exact sound.waits_markDown up
  have sound_fallen : fallen.Sound := sound.step .markDown
  have punctual_after : fallen.Punctual after := (punctual_append.mp punctual).2.2
  have within : ∀ part, part <+: after → fallen.Punctual part := by
    rintro part ⟨more, rfl⟩
    exact (punctual_append.mp punctual_after).1
  refine ⟨fun late ↦ ⟨fun part here early ↦ ?_, fun past ↦ ?_⟩, fun part here down ↦ ?_,
    fun part i here down rises ↦ ?_⟩
  · by_contra up_
    have ends : ¬ fallen.DownThroughout part := fun down ↦ up_ (down part (List.prefix_refl _))
    obtain ⟨first, event, there, down, rises⟩ := exists_rise waits.down ends
    have sooner : (fallen.run first).1.now < due :=
      Nat.lt_of_le_of_lt (now_le_of_start ((List.prefix_append _ _).trans there)) early
    rcases waits.rise sound_fallen (within _ (there.trans here)) down rises with rfl | ⟨i, -, due_⟩
    · exact Nat.not_le_of_lt sooner (late first (there.trans here))
    · exact Nat.ne_of_lt sooner due_
  · have ends : ¬ fallen.DownThroughout after := fun down ↦
      absurd (waits.run sound_fallen punctual_after down).now_le (Nat.not_le_of_lt past)
    obtain ⟨first, event, there, down, rises⟩ := exists_rise waits.down ends
    refine ⟨first, event, there, down, ?_, rises⟩
    rcases waits.rise sound_fallen (within _ there) down rises with rfl | ⟨i, -, due_⟩
    · have before_ := within first ((List.prefix_append _ _).trans there)
      exact Nat.le_antisymm (waits.run sound_fallen before_ down).now_le (late first there)
    · exact due_
  · have still := waits.run sound_fallen (within part here) down
    refine ⟨still, fun now_ ↦ ?_⟩
    rw [run_append]
    exact still.up_of_due (sound_fallen.run part) now_
  · rcases waits.rise sound_fallen (within _ here) down rises with found | ⟨i, -, due_⟩
    · cases found
    · exact due_

/-- Main goes down at 5, while a timer from before is awake that was disarmed too late. That one
comes back first and changes nothing, and being found down once more does not either: main is down
until its own timer is due, at 10. -/
theorem down_from_five_to_ten :
    let before : List Event := [.markDown, .pass 5, .wake 0, .markUp]
    let after : List Event := [.comeBack 0, .pass 2, .markDown, .pass 3, .wake 1, .comeBack 1]
    let fallen := (((new .main 5 0).run before).1.step .markDown).1
    (new .main 5 0).Punctual (before ++ .markDown :: after) ∧
      ((new .main 5 0).run before).1.monitor.isUp = true ∧
      (∀ part, part ++ [.markUp] <+: after → 10 ≤ (fallen.run part).1.now) ∧
      (∀ part, part <+: after → (fallen.run part).1.now < 10 →
        (fallen.run part).1.monitor.isUp = false) ∧
      (fallen.run after).1.monitor.isUp = true := by
  intro before after fallen
  have punctual : (new .main 5 0).Punctual (before ++ .markDown :: after) := by decide
  have up : ((new .main 5 0).run before).1.monitor.isUp = true := by decide
  have late : ∀ part, part ++ [.markUp] <+: after → 10 ≤ (fallen.run part).1.now := fun part here ↦
    absurd (here.subset (List.mem_append_right part (List.mem_singleton.mpr rfl))) (by decide)
  exact ⟨punctual, up, late, ((down_for_the_delay punctual up).1 late).1, by decide⟩

end PaymentRelay.Recovery
