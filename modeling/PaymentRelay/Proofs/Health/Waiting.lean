import PaymentRelay.Health.Watch

/-!
# Nobody sleeps while the processor is up

A task that waits sees one thing only, what the monitor publishes, and it sees it only when its turn
comes. Between two of its turns the monitor may go up and down as often as it likes. That nothing is
missed in between rests on two facts, which every step keeps: what is published is what the monitor
is, and whoever is parked was parked by a monitor that is down and has been down ever since, because
going up wakes everybody in the same step.

`Attentive` says both of one state. What a turn comes to is then a matter of that turn alone: the
task is released if the monitor is up at that moment, and parks if it is not.
-/

namespace PaymentRelay

namespace Monitor

variable {m : Monitor}

/-- What is published is what the monitor is. -/
def Candid (m : Monitor) : Prop := m.published = m.isUp

theorem candid_new (source : Source) (delay : Ticks) : (new source delay).Candid := rfl

theorem Candid.markDown (candid : m.Candid) (now : Ticks) : (m.markDown now).Candid := by
  rw [Candid] at candid
  simp [Candid, Monitor.markDown, candid]

theorem Candid.rise (candid : m.Candid) : m.rise.Candid := by
  rw [Candid] at candid
  simp [Candid, Monitor.rise, candid]

theorem Candid.markUp (candid : m.Candid) : m.markUp.Candid := candid.rise

theorem Candid.expire (candid : m.Candid) (deadline : Ticks) : (m.expire deadline).Candid := by
  rw [Monitor.expire]
  split
  · exact candid.rise
  · exact candid

end Monitor

theorem Waiter.wake_ne_parked (waiter : Waiter) : waiter.wake ≠ .parked := by
  cases waiter <;> decide

@[simp] theorem Waiter.wake_eq_released_iff {waiter : Waiter} :
    waiter.wake = .released ↔ waiter = .released := by
  cases waiter <;> decide

namespace Watch

/-- What holds of a watch between any two steps. -/
structure Attentive (w : Watch) : Prop where
  candid : w.monitor.Candid
  /-- Nobody is parked unless the monitor is down. -/
  parked : ∀ i : Nat, w.waiters[i]? = some .parked → w.monitor.isUp = false

/-- A task waits: it has come, and has not been released. -/
def Waits (w : Watch) (i : Nat) : Prop := ∃ waiter, w.waiters[i]? = some waiter ∧ waiter ≠ .released

variable {w : Watch} {i : Nat}

theorem attentive_new (source : Source) (delay : Ticks) : (new source delay).Attentive where
  candid := Monitor.candid_new source delay
  parked i there := by simp [new] at there

/-! ## What becomes of a task -/

theorem getElem?_become (w : Watch) (monitor : Monitor) (i : Nat) :
    (w.become monitor).waiters[i]? =
      if monitor.isUp = w.monitor.isUp then w.waiters[i]? else w.waiters[i]?.map Waiter.wake := by
  rw [become]
  split
  · rfl
  · exact Array.getElem?_map

theorem getElem?_run (w : Watch) (i j : Nat) :
    (w.step (.run j)).waiters[i]? =
      if j = i then w.waiters[i]?.map w.look else w.waiters[i]? := Array.getElem?_modify

/-- **What a turn comes to**: a task that waits is released if the monitor is up at that moment, and
parks if it is not. -/
theorem Attentive.look_eq (attentive : w.Attentive) {waiter : Waiter}
    (there : w.waiters[i]? = some waiter) (waits : waiter ≠ .released) :
    w.look waiter = if w.monitor.isUp then .released else .parked := by
  cases waiter with
  | runnable => rw [look, attentive.candid]
  | parked =>
    rw [attentive.parked i there]
    rfl
  | released => exact absurd rfl waits

theorem Attentive.become (attentive : w.Attentive) {monitor : Monitor} (candid : monitor.Candid) :
    (w.become monitor).Attentive where
  candid := candid
  parked i there := by
    rw [getElem?_become] at there
    split at there
    · next same => exact same.trans (attentive.parked i there)
    · obtain ⟨waiter, -, woken⟩ := Option.map_eq_some_iff.mp there
      exact absurd woken waiter.wake_ne_parked

/-- **No step leaves anybody asleep while the monitor is up.** -/
theorem Attentive.step (attentive : w.Attentive) (event : Event) : (w.step event).Attentive := by
  cases event with
  | join =>
    refine ⟨attentive.candid, fun i there ↦ ?_⟩
    rw [Watch.step, Array.getElem?_push] at there
    split at there
    · cases there
    · exact attentive.parked i there
  | markDown now => exact attentive.become (attentive.candid.markDown now)
  | markUp => exact attentive.become attentive.candid.markUp
  | expire deadline => exact attentive.become (attentive.candid.expire deadline)
  | run j =>
    refine ⟨attentive.candid, fun i there ↦ ?_⟩
    rw [getElem?_run] at there
    split at there
    · obtain ⟨waiter, before, looked⟩ := Option.map_eq_some_iff.mp there
      by_cases waits : waiter = .released
      · subst waits
        cases looked
      rw [attentive.look_eq before waits] at looked
      cases up : w.monitor.isUp with
      | true => simp [up] at looked
      | false => exact up
    · exact attentive.parked i there

theorem Attentive.run (attentive : w.Attentive) (events : List Event) :
    (w.run events).Attentive := by
  induction events generalizing w with
  | nil => exact attentive
  | cons event events ih => exact ih (attentive.step event)

theorem Waits.become (waits : w.Waits i) (monitor : Monitor) : (w.become monitor).Waits i := by
  obtain ⟨waiter, there, waits⟩ := waits
  rw [Waits, getElem?_become, there]
  split
  · exact ⟨waiter, rfl, waits⟩
  · exact ⟨waiter.wake, rfl, mt Waiter.wake_eq_released_iff.mp waits⟩

/-- **A task goes on waiting** through every step that is not its own turn. -/
theorem Waits.step (waits : w.Waits i) {event : Event} (other : event ≠ .run i) :
    (w.step event).Waits i := by
  cases event with
  | join =>
    obtain ⟨waiter, there, waits⟩ := waits
    obtain ⟨within, rfl⟩ := Array.getElem?_eq_some_iff.mp there
    exact ⟨w.waiters[i], Array.getElem?_push_lt within, waits⟩
  | markDown now => exact waits.become _
  | markUp => exact waits.become _
  | expire deadline => exact waits.become _
  | run j =>
    have another : j ≠ i := fun same ↦ other (congrArg Event.run same)
    rw [Waits, getElem?_run, if_neg another]
    exact waits

theorem Waits.run (waits : w.Waits i) {events : List Event} (others : .run i ∉ events) :
    (w.run events).Waits i := by
  induction events generalizing w with
  | nil => exact waits
  | cons event events ih =>
    rw [List.mem_cons, not_or] at others
    exact ih (waits.step (Ne.symm others.1)) others.2

theorem Attentive.turn (attentive : w.Attentive) (waits : w.Waits i) :
    (w.step (.run i)).waiters[i]? = some (if w.monitor.isUp then .released else .parked) := by
  obtain ⟨waiter, there, waits⟩ := waits
  rw [getElem?_run, if_pos rfl, there, Option.map_some, attentive.look_eq there waits]

/-- **Whatever happens before its next turn**, and whether a task is parked or runnable until then,
that turn is decided by the monitor as it is at that moment. -/
theorem Attentive.turn_after (attentive : w.Attentive) (waits : w.Waits i) {between : List Event}
    (others : .run i ∉ between) :
    ((w.run between).step (.run i)).waiters[i]? =
      some (if (w.run between).monitor.isUp then .released else .parked) :=
  (attentive.run between).turn (waits.run others)

theorem step_ne_released_of_none (absent : w.waiters[i]? = none) (event : Event) :
    (w.step event).waiters[i]? ≠ some .released := by
  have become (monitor : Monitor) : (w.become monitor).waiters[i]? ≠ some .released := by
    rw [getElem?_become, absent]
    split <;> simp
  cases event with
  | join =>
    rw [step, Array.getElem?_push, absent]
    split <;> simp
  | markDown now => exact become _
  | markUp => exact become _
  | expire deadline => exact become _
  | run j =>
    rw [getElem?_run, absent]
    split <;> simp

/-- **A task is released by its own turn alone**, and only while the monitor is up. -/
theorem Attentive.of_released (attentive : w.Attentive) (before : w.waiters[i]? ≠ some .released)
    {event : Event} (after : (w.step event).waiters[i]? = some .released) :
    event = .run i ∧ w.waiters[i]? = some .runnable ∧ w.monitor.isUp = true := by
  cases there : w.waiters[i]? with
  | none => exact absurd after (step_ne_released_of_none there event)
  | some waiter =>
    have waits : w.Waits i := ⟨waiter, there, fun same ↦ before (same ▸ there)⟩
    by_cases own : event = .run i
    · subst own
      rw [attentive.turn waits] at after
      cases up : w.monitor.isUp with
      | false => simp [up] at after
      | true =>
        refine ⟨rfl, ?_, rfl⟩
        cases waiter with
        | runnable => rfl
        | parked => simp [attentive.parked i there] at up
        | released => exact absurd there before
    · obtain ⟨waiter, still, waits⟩ := waits.step own
      rw [still] at after
      exact absurd (Option.some.inj after) waits

/-- **Where nobody can go on, the monitor is down** if anybody waits, and all who wait are
parked. -/
theorem Attentive.still (attentive : w.Attentive) (still : .runnable ∉ w.waiters)
    (waits : w.Waits i) : w.waiters[i]? = some .parked ∧ w.monitor.isUp = false := by
  obtain ⟨waiter, there, waits⟩ := waits
  have parked : waiter = .parked := by
    cases waiter with
    | runnable => exact absurd (Array.mem_of_getElem? there) still
    | parked => rfl
    | released => exact absurd rfl waits
  subst parked
  exact ⟨there, attentive.parked i there⟩

end Watch

end PaymentRelay
