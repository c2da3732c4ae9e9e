import PaymentRelay.Edge.Connection
import PaymentRelay.Health.Probe
import PaymentRelay.Rehearsal.Sibling
import PaymentRelay.Transport.Endpoint

/-!
# Rehearsing without a network

A rehearsal joins what meets at a socket file, and nothing else: it has no network, so that nobody
is reached at a host and port, and nobody can listen there. Processors live at a host and port.
What is left to see of a gateway that is started in such a place is how it bears up: every probe is
a bad sign, every payload is accepted, and none is recorded.
-/

namespace PaymentRelay.Rehearsal

open Transport (Endpoint)

def networkFault? : Endpoint → Option Transport.Fault
  | .unix _ => none
  | .tcp _ => some .connectionRefused

/-! ## Probes -/

/-- What a probe came to. -/
structure Sighting where
  /-- Whether the processor has been asked at all. -/
  reached : Bool
  isUp : Bool
  fault : Option ProbeFault
deriving DecidableEq, Repr

/-- A probe of a processor that would give this answer if it could be reached. -/
def probe (m : Monitor) (endpoint : Endpoint) (answer : Except Transport.Fault Probe.Response) :
    Monitor × Sighting :=
  let unreached := networkFault? endpoint
  let answer := unreached.elim answer .error
  let m := Probe.apply m 0 answer
  (m, ⟨unreached.isNone, m.isUp, match Probe.isWell answer with
    | .ok _ => none
    | .error fault => some fault⟩)

def probes (m : Monitor) (endpoint : Endpoint) :
    List (Except Transport.Fault Probe.Response) → List Sighting
  | [] => []
  | answer :: answers =>
    let (m, sighting) := probe m endpoint answer
    sighting :: probes m endpoint answers

/-! ## A whole gateway -/

/-- A payload that is posted, and what is waited for afterwards. -/
structure Post where
  payload : Bytes
  /-- So many more calls to processors. -/
  calls : Nat
  /-- So many more recorded payments. -/
  records : Nat
deriving DecidableEq, Repr

/-- What came of a post. -/
structure Posted where
  /-- What the client is told. -/
  response : Bytes
  /-- Whether what was waited for has come. -/
  arrived : Bool
  /-- The summary of the ledger. -/
  summary : Summary

/-- What is seen of a gateway from its start to its end. -/
structure Career where
  /-- Main, after the first probe. -/
  isUp : Bool
  posts : List Posted
  /-- What a client is told that asks for the summary. -/
  response : Bytes
  /-- Whether the ledger is empty once it has been ordered to be emptied. -/
  purged : Bool
  /-- What a client is told then that asks for the summary. -/
  after : Bytes
  /-- Whether the server comes to its end when it is told to. -/
  stopped : Bool
  /-- Whether its socket file is still there then. -/
  socketExists : Bool
  /-- How many tasks are at work in the background. -/
  background : Nat

/-- What a client is told that sends these octets on a connection of its own and no more. The
gateway takes every payload; as nobody can be called, its ledger stays empty. -/
def told (octets : Bytes) : Bytes :=
  Sibling.written (Edge.Session.serve .standard (fun _ ↦ .ok Summary.zero.write) [octets])

/-- The career of a gateway that is started with these settings, if it can listen. -/
def career (settings : Settings) (posts : List Post) : Option Career :=
  if (networkFault? settings.listenEndpoint).isSome then none
  else
    let g : Gateway String := .new settings.gatewayTerms
    let (_, sighting) :=
      probe g.health.main (settings.processorEndpoint .main) (.error .endOfStream)
    let post (p : Post) : Posted :=
      ⟨told (Request.post Route.paymentsPath "localhost" p.payload).flatten,
        p.calls = 0 && p.records = 0, Summary.zero⟩
    some
      { isUp := sighting.isUp
        posts := posts.map post
        response := told (utf8 (Request.get Route.summaryPath "localhost"))
        purged := (g.step .purge).1.ledger = .empty
        after := told (utf8 (Request.get Route.summaryPath "localhost"))
        stopped := true
        -- the server removes its socket file when it stops
        socketExists := false
        background := settings.backgroundTasks }

end PaymentRelay.Rehearsal
