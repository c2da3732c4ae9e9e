import PaymentRelay.Health.Watch

/-!
# Rehearsing a monitor

A run of one monitor and its waiting tasks on a clock that moves only when told to. Between two
instructions every runnable task has its turn and every timer whose time has come goes off, so what
an instruction answers is the state in which nothing can happen by itself.
-/

namespace PaymentRelay.HealthRehearsal

/-- A watch on a clock. -/
structure State where
  now : Ticks
  watch : Watch
deriving DecidableEq, Repr

/-- An instruction. -/
inductive Step where
  | down
  | up
  /-- Up and down again before anybody has a turn. -/
  | flap
  /-- Down and up again before anybody has a turn. -/
  | dip
  /-- Time passes. -/
  | advance (span : Ticks)
  /-- Another task begins to wait. -/
  | wait
deriving DecidableEq, Repr

/-- What an instruction came to. -/
structure Answer where
  isUp : Bool
  /-- The tasks that were released, in the order of their numbers. -/
  released : List Nat
  /-- The changes of state, in order. -/
  reports : List String
deriving DecidableEq, Repr

def start (source : Source) (delay : Ticks) : State := ⟨0, .new source delay⟩

def apply (s : State) (event : Watch.Event) : State × List String :=
  let watch := s.watch.step event
  ({ s with watch }, (Monitor.report s.watch.monitor watch.monitor).toList)

def applyAll (s : State) : List Watch.Event → State × List String
  | [] => (s, [])
  | event :: events =>
    let (s, reports) := apply s event
    let (s, more) := applyAll s events
    (s, reports ++ more)

def settle (s : State) : State :=
  { s with watch := (List.range s.watch.waiters.size).foldl (fun w i ↦ w.step (.run i)) s.watch }

/-- Moves the clock to `target`. The timer goes off on the way if its time comes. -/
def moveTo (s : State) (target : Ticks) : State × List String :=
  match s.watch.monitor.deadline with
  | some deadline =>
    if deadline ≤ target then
      let (s, reports) := apply { s with now := deadline } (.expire deadline)
      ({ settle s with now := target }, reports)
    else ({ s with now := target }, [])
  | none => ({ s with now := target }, [])

def events (now : Ticks) : Step → List Watch.Event
  | .down => [.markDown now]
  | .up => [.markUp]
  | .flap => [.markUp, .markDown now]
  | .dip => [.markDown now, .markUp]
  | .advance _ => []
  | .wait => [.join]

def newlyReleased (before after : State) : List Nat :=
  (List.range after.watch.waiters.size).filter fun i ↦
    after.watch.waiters[i]? = some .released && before.watch.waiters[i]? ≠ some .released

/-- Carries out an instruction. A timer whose time has come goes off even if no time passes. -/
def step (s : State) (instruction : Step) : State × Answer :=
  let (t, reports) := applyAll s (events s.now instruction)
  let span := match instruction with
    | .advance span => span
    | _ => 0
  let (t, more) := moveTo (settle t) (s.now + span)
  (t, ⟨t.watch.monitor.isUp, newlyReleased s t, reports ++ more⟩)

def run (s : State) : List Step → List Answer
  | [] => []
  | instruction :: rest =>
    let (s, answer) := step s instruction
    answer :: run s rest

end PaymentRelay.HealthRehearsal
