import PaymentRelay.Config.Startup
import PaymentRelay.Edge.Session
import PaymentRelay.Gateway.Summaries
import PaymentRelay.Rehearsal.Reply

/-!
# Rehearsed siblings

The other instance that a gateway may ask for its summary: there is none, or one that follows a
script, or a gateway of its own behind an edge server, with a ledger that was filled beforehand.
-/

namespace PaymentRelay.Rehearsal

/-- The other instance. -/
inductive Sibling where
  | absent
  | scripted (script : SiblingScript)
  /-- A gateway that is asked through its edge server. -/
  | live (gateway : Gateway String)

namespace Sibling

/-- What a gateway answers that is asked for a summary and has nobody to ask in turn. -/
def answer (g : Gateway String) (now : Ticks) (wall : Instant) (scope : Scope)
    (query : Option String) : Gateway String × Except RequestFault Bytes :=
  match Window.asked query scope wall with
  | .error fault => (g, .error fault)
  | .ok w =>
    match scope with
    | .lock =>
      let (g, summary) := g.lockSummary w now
      (g, .ok summary.write)
    | .merged =>
      let (g, half) := g.beginMerged w
      let (g, summary) := g.endMerged half none
      (g, Gateway.tidings summary)

def written (effects : List Edge.Effect) : Bytes :=
  effects.flatMap fun
    | .respond reply => reply.write
    | _ => []

/-- What a gateway's edge server does with a connection on which one request for a summary arrives.
-/
def serve (g : Gateway String) (now : Ticks) (wall : Instant) (request : Bytes) :
    Gateway String × List Edge.Effect :=
  let (session, _) := Edge.Session.start .standard
  let (session, effects) := session.feed .standard request
  match effects.getLast? with
  | some (.ask scope query) =>
    let (g, result) := answer g now wall scope query
    (g, effects.dropLast ++ (session.answer .standard result).2)
  | _ => (g, effects)

/-- The other instance cannot be reached, or there is none: what an inquiry comes to at once. -/
def atOnce? : Sibling → Option (Option (Except PeerFault Summary))
  | .absent => some none
  | .scripted .unreachable =>
    (Peer.Inquiry.asking.run (SiblingScript.events .unreachable)).result?.map some
  | _ => none

def delay : Sibling → Ticks
  | .scripted (.replies reply) => reply.delay
  | _ => 0

/-- What an inquiry came to that reached the other instance. -/
structure Finding where
  /-- The other instance afterwards. -/
  sibling : Sibling
  /-- What the other instance warns of, in order. -/
  notices : List Notice
  /-- What the one that asked is left with, unless it waits for ever. -/
  result : Option (Except PeerFault Summary)

/-- An inquiry reaches the other instance and has waited long enough. -/
def inquire (s : Sibling) (w : Window) (now : Ticks) (wall : Instant) : Finding :=
  match s with
  | .absent => ⟨.absent, [], none⟩
  | .scripted (.replies reply) =>
    ⟨s, [], (Peer.Inquiry.asking.run
      (SiblingScript.events (.replies { reply with delay := 0 }))).result?⟩
  | .scripted script => ⟨s, [], (Peer.Inquiry.asking.run script.events).result?⟩
  | .live g =>
    let (g, effects) := serve g now wall (Peer.request w)
    ⟨.live g, effects.filterMap (·.notice?),
      (Peer.Inquiry.asking.run [.sent none, .deliver (written effects), .hangUp]).result?⟩

def monitor? : Sibling → Option Monitor
  | .live g => some g.health.main
  | _ => none

def expire (s : Sibling) (deadline : Ticks) : Sibling :=
  match s with
  | .live g => .live (g.step (.expire .main deadline)).1
  | s => s

end Sibling

end PaymentRelay.Rehearsal
