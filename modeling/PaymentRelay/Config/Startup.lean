import PaymentRelay.Config.Settings
import PaymentRelay.Edge.Session
import PaymentRelay.Gateway.Basic

/-!
# Starting up

What the parts of the program are told when it starts: some of it by the settings, and the rest the
same every time.
-/

namespace PaymentRelay

/-- The bounds of every session: a head of at most 8 KiB, and a body in pieces of 64 KiB. -/
def Edge.Terms.standard : Edge.Terms := ⟨8192, 65536⟩

namespace Settings

def gatewayTerms (s : Settings) : Gateway.Terms :=
  ⟨s.failover, s.maxInFlight, s.queueCapacity, s.recoveryDelay⟩

/-- How long a call waits for an idle connection before it dials one of its own. -/
def borrowPatience : Ticks := 5

def processorEndpoint (s : Settings) : Source → Transport.Endpoint
  | .main => .tcp s.mainAddress
  | .fallback => .tcp s.fallbackAddress

/-- The processors that are probed: the fallback processor only if it may be called. -/
def probed (s : Settings) : List Source := if s.failover then [.main, .fallback] else [.main]

/-- How many tasks are at work in the background: one for each processor that is probed, those that
draw on the retry queue, and one that waits for the order to empty the ledger. -/
def backgroundTasks (s : Settings) : Nat :=
  s.probed.length + Gateway.workerCount s.workers + 1

end Settings

end PaymentRelay
