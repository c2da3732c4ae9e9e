import PaymentRelay.Health.Monitor

/-!
# Recovery timers

A monitor that goes down sets a timer: a task that sleeps until the deadline and then brings the
monitor up. A monitor that goes up disarms its timer. One that still sleeps is over by that; one
that has woken is past stopping, and comes back late, to a monitor that may have set another timer
by then. All that it has to tell itself from that other one is its deadline.

Here are a monitor, all the timers that it has ever set, and a clock. One event is one atomic step;
events may come in any order, and time may pass between any two. Beside the new state stands what
was published, in order.
-/

namespace PaymentRelay

namespace Monitor

/-- What is published when the processor is found to be down: a monitor that is down is silent. -/
def goingDown (m : Monitor) : List Bool := if m.isUp then [false] else []

/-- What is published when the processor is found to be up: a monitor that is up is silent. -/
def goingUp (m : Monitor) : List Bool := if m.isUp then [] else [true]

/-- What the operator is told of something published. -/
def line (m : Monitor) (up : Bool) : String :=
  if up then "🟢 " ++ m.source.label ++ " processor marked up"
  else "🔴 " ++ m.source.label ++ " processor marked down"

end Monitor

/-- How far a timer has come. -/
inductive Timer.Phase where
  /-- It sleeps until its deadline. -/
  | asleep
  /-- It has woken, and is about to come back to the monitor. -/
  | awake
  /-- It has come back, or was disarmed in its sleep. -/
  | ended
deriving DecidableEq, Repr

/-- A task that is to bring a monitor up. -/
structure Timer where
  deadline : Ticks
  phase : Timer.Phase
deriving DecidableEq, Repr

/-- Disarms a timer. For one that has woken this comes too late. -/
def Timer.disarm (t : Timer) : Timer := if t.phase = .asleep then { t with phase := .ended } else t

/-- A monitor, its timers, and the clock. -/
structure Recovery where
  monitor : Monitor
  /-- All the timers ever set, by number. -/
  timers : Array Timer
  /-- The timer that is armed. -/
  armed : Option Nat
  now : Ticks
deriving DecidableEq, Repr

namespace Recovery

/-- A step. -/
inductive Event where
  /-- The processor is found to be down. -/
  | markDown
  /-- The processor is found to be up. -/
  | markUp
  /-- A timer wakes, if it sleeps and its deadline has come. -/
  | wake (timer : Nat)
  /-- A timer that has woken comes back to the monitor. -/
  | comeBack (timer : Nat)
  /-- Time passes. -/
  | pass (span : Ticks)
deriving DecidableEq, Repr

/-- A monitor that is up and has set no timer yet. -/
def new (source : Source) (delay began : Ticks) : Recovery :=
  ⟨.new source delay, #[], none, began⟩

/-- The processor is found to be down: a timer is set unless one is armed. -/
def markDown (r : Recovery) : Recovery :=
  let monitor := r.monitor.markDown r.now
  if r.monitor.deadline = none then
    { r with
      monitor
      timers := r.timers.push ⟨r.now + r.monitor.delay, .asleep⟩
      armed := some r.timers.size }
  else { r with monitor }

/-- The timers once the armed one is disarmed. -/
def disarmed (r : Recovery) : Array Timer :=
  match r.armed with
  | some i => r.timers.modify i Timer.disarm
  | none => r.timers

/-- The processor is found to be up. -/
def markUp (r : Recovery) : Recovery :=
  { r with monitor := r.monitor.markUp, timers := r.disarmed, armed := none }

def setPhase (r : Recovery) (i : Nat) (timer : Timer) (phase : Timer.Phase) : Recovery :=
  { r with timers := r.timers.setIfInBounds i { timer with phase } }

/-- A timer comes back: the monitor goes up if it waits for the deadline that the timer has. -/
def comeBack (r : Recovery) (i : Nat) (timer : Timer) : Recovery :=
  { r.setPhase i timer .ended with
    monitor := r.monitor.expire timer.deadline
    armed := if r.monitor.deadline = some timer.deadline then none else r.armed }

/-- The state after a step, and what the step published. -/
def step (r : Recovery) : Event → Recovery × List Bool
  | .markDown => (r.markDown, r.monitor.goingDown)
  | .markUp => (r.markUp, r.monitor.goingUp)
  | .wake i =>
    match r.timers[i]? with
    | some ⟨deadline, .asleep⟩ =>
      (if deadline ≤ r.now then r.setPhase i ⟨deadline, .asleep⟩ .awake else r, [])
    | _ => (r, [])
  | .comeBack i =>
    match r.timers[i]? with
    | some ⟨deadline, .awake⟩ =>
      (r.comeBack i ⟨deadline, .awake⟩,
        if r.monitor.deadline = some deadline then r.monitor.goingUp else [])
    | _ => (r, [])
  | .pass span => ({ r with now := r.now + span }, [])

/-- The state after several steps, and what they published. -/
def run (r : Recovery) : List Event → Recovery × List Bool
  | [] => (r, [])
  | event :: events =>
    let (r, published) := r.step event
    let (r, more) := r.run events
    (r, published ++ more)

end Recovery

end PaymentRelay
