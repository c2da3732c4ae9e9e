import PaymentRelay.Health.Monitor

/-!
# Waiting for a processor

Tasks may wait until a processor is up. A waiting task looks at what its monitor publishes, and if
that is not `up` it parks; whenever something new is published every parked task becomes runnable
and looks again when its turn comes. By then the monitor may be down once more, and the task parks
again. So nobody is released by an `up` that is over, and nobody sleeps through one that lasts.

One operation here is one atomic step, and steps may come in any order.
-/

namespace PaymentRelay

/-- A task that waits for a processor. -/
inductive Waiter where
  /-- It is to look at what is published. -/
  | runnable
  /-- It sleeps until something new is published. -/
  | parked
  /-- It saw that the processor is up. -/
  | released
deriving DecidableEq, Repr

/-- Something new is published. -/
def Waiter.wake : Waiter → Waiter
  | .parked => .runnable
  | w => w

/-- A monitor and the tasks that wait for it, numbered in the order in which they came. -/
structure Watch where
  monitor : Monitor
  waiters : Array Waiter
deriving DecidableEq, Repr

namespace Watch

/-- A monitor that is up, and nobody waits for it yet. -/
def new (source : Source) (delay : Ticks) : Watch := ⟨.new source delay, #[]⟩

/-- A step. -/
inductive Event where
  /-- Another task begins to wait. -/
  | join
  /-- The processor is found to be down. -/
  | markDown (now : Ticks)
  /-- The processor is found to be up. -/
  | markUp
  /-- The timer that was set for a deadline comes back. -/
  | expire (deadline : Ticks)
  /-- A runnable task has its turn. -/
  | run (waiter : Nat)
deriving DecidableEq, Repr

/-- Puts the monitor into another state. Parked tasks wake if that publishes something. -/
def become (w : Watch) (monitor : Monitor) : Watch :=
  ⟨monitor, if monitor.isUp = w.monitor.isUp then w.waiters else w.waiters.map Waiter.wake⟩

/-- What a task does when its turn comes. -/
def look (w : Watch) : Waiter → Waiter
  | .runnable => if w.monitor.published then .released else .parked
  | waiter => waiter

def step (w : Watch) : Event → Watch
  | .join => { w with waiters := w.waiters.push .runnable }
  | .markDown now => w.become (w.monitor.markDown now)
  | .markUp => w.become w.monitor.markUp
  | .expire deadline => w.become (w.monitor.expire deadline)
  | .run i => { w with waiters := w.waiters.modify i w.look }

def run (w : Watch) (events : List Event) : Watch := events.foldl step w

end Watch

end PaymentRelay
