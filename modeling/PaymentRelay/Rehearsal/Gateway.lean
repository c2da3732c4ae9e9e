import PaymentRelay.Rehearsal.Sibling

/-!
# Rehearsing a gateway

A gateway between scripted processors, an edge server with clients, and perhaps a sibling, on a
clock that moves only when told to. An instruction is carried out, and then everything happens that
can happen by itself: tasks and connections have their turns, first come, first served, and each
goes on until it must wait; but a connection that has read and written very often lets all others
go first. What a sibling answers arrives when nobody has a turn.

The clock of the timers is not the one that payments are recorded by: that one stands still.
-/

namespace PaymentRelay.GatewayRehearsal

open Rehearsal (Sibling)

/-- What a processor does about a call. -/
inductive Plan where
  | answer (outcome : ProcessorOutcome)
  /-- It takes the payment once it is permitted to. -/
  | hold
deriving DecidableEq, Repr

/-- A scripted processor. -/
structure Processor where
  /-- What it does about the calls to come; past the list it takes every payment. -/
  plans : List Plan
  /-- How many calls there have been. -/
  calls : Nat
  /-- How many calls may end that are to wait for a permit. -/
  permits : Nat
  /-- The tasks whose calls wait for a permit. -/
  held : List Nat
deriving DecidableEq, Repr

/-- A client's connection to the edge server. -/
structure Connection where
  session : Edge.Session
  /-- What is still to be done for the session, in order. -/
  pending : List Edge.Effect
  /-- What the client has written and the server has not read. -/
  inbox : Bytes
  /-- The client writes no more. -/
  ended : Bool
  /-- What the server has written and the client has not read. -/
  outbox : Bytes
deriving DecidableEq, Repr

/-- Whether clients can connect. -/
inductive Door where
  /-- Nobody has tried yet. -/
  | unopened
  | opened
  | shut
deriving DecidableEq, Repr

/-- Something that has its turn. -/
inductive Turn where
  /-- A task goes on. -/
  | task (task : Nat)
  /-- The call of a task is over. -/
  | reply (task : Nat) (outcome : ProcessorOutcome)
  /-- A monitor's timer has come back. -/
  | expire (source : Source) (deadline : Ticks)
  /-- The timer of the sibling's monitor has come back. -/
  | siblingExpire (deadline : Ticks)
  /-- The turn of a connection begins. -/
  | serve (connection : Nat)
  /-- The turn of a connection goes on. -/
  | goOn (connection : Nat)
deriving DecidableEq, Repr

/-- What a timer was set for. -/
inductive Alarm where
  | monitor (source : Source)
  | sibling
  /-- A task has slept long enough. -/
  | worker (task : Nat)
  /-- The sibling has let an inquiry wait for long enough. -/
  | inquiry
deriving DecidableEq, Repr

/-- A merged summary for which the sibling has been asked. -/
structure Inquiry where
  /-- The connection that it is for; otherwise it is for the rehearsal itself. -/
  asker : Option Nat
  window : Window
  localHalf : Summary
  /-- When the sibling answers. -/
  due : Ticks
deriving DecidableEq, Repr

/-- The gateway and all that surrounds it. -/
structure State where
  gateway : Gateway String
  processors : PerSource Processor
  sibling : Sibling
  terms : Edge.Terms
  door : Door
  connections : Array Connection
  /-- The clock of the timers. -/
  now : Ticks
  /-- The clock of the ledger. -/
  wall : Instant
  /-- The timers that are set, in the order in which they were set. -/
  alarms : List (Ticks × Alarm)
  turns : List Turn
  /-- How often the connection that has its turn has read and written. -/
  spent : Nat
  inquiries : List Inquiry
  /-- The tasks that the rehearsal has begun, in order. -/
  begun : Array Nat
  /-- The calls to processors, the last first. -/
  seen : List (Source × Payment)
  /-- The tasks that ended during this instruction, the last first. -/
  ended : List (Nat × TaskResult)
  /-- The warnings of this instruction, the last first. -/
  notices : List Notice
  /-- The merged summary that the rehearsal itself has asked for. -/
  merged : Option (Except PeerFault Summary)

/-! ## Keeping track of the gateway -/

def State.add (s : State) (turn : Turn) : State := { s with turns := s.turns ++ [turn] }

def State.addFirst (s : State) (turn : Turn) : State := { s with turns := turn :: s.turns }

def State.setAlarm (s : State) (deadline : Ticks) (alarm : Alarm) : State :=
  { s with alarms := s.alarms ++ [(deadline, alarm)] }

def State.warn (s : State) (notice : Notice) : State := { s with notices := notice :: s.notices }

def Turn.alarm? : Turn → Option Alarm
  | .expire source _ => some (.monitor source)
  | .siblingExpire _ => some .sibling
  | .task _ | .reply .. | .serve _ | .goOn _ => none

def Alarm.expiry? (deadline : Ticks) : Alarm → Option Turn
  | .monitor source => some (.expire source deadline)
  | .sibling => some (.siblingExpire deadline)
  | .worker _ | .inquiry => none

/-- A timer that was set is set no more, and what it has brought about already does not happen. -/
def State.disarm (s : State) (alarm : Alarm) : State :=
  { s with
    alarms := s.alarms.filter (·.2 ≠ alarm)
    turns := s.turns.filter (·.alarm? ≠ some alarm) }

/-- A timer is set if a monitor has got another deadline. One that is over already comes back by
itself. -/
def State.watchDeadline (s : State) (alarm : Alarm) (before after : Monitor) : State :=
  if before.deadline = after.deadline then s
  else
    let s := s.disarm alarm
    match after.deadline with
    | some deadline =>
      if s.now < deadline then s.setAlarm deadline alarm
      else ((alarm.expiry? deadline).map s.add).getD s
    | none => s

/-- A processor is called: it answers at once, or when it is permitted to. -/
def State.call (s : State) (task : Nat) (source : Source) (payment : Payment) : State :=
  let p := s.processors.get source
  let s := { s with seen := (source, payment) :: s.seen }
  let put (p : Processor) : State :=
    { s with processors := s.processors.set source { p with calls := p.calls + 1 } }
  match p.plans with
  | [] => (put p).addFirst (.reply task .taken)
  | .answer outcome :: plans => (put { p with plans }).addFirst (.reply task outcome)
  | .hold :: plans =>
    if p.permits = 0 then put { p with plans, held := p.held ++ [task] }
    else (put { p with plans, permits := p.permits - 1 }).addFirst (.reply task .taken)

def State.heed (s : State) (effect : Gateway.Effect String) : State :=
  let s := (effect.notice?.map s.warn).getD s
  match effect with
  | .called task source _ payment _ => s.call task source payment
  | .finished task result => { s with ended := (task, result) :: s.ended }
  | .rested task => s.setAlarm (s.now + Gateway.restingTime) (.worker task)
  | _ => s

def State.become (s : State) (after : Gateway String) (effects : List (Gateway.Effect String)) :
    State :=
  let before := s.gateway
  let s := { s with gateway := after }
  let s := s.watchDeadline (.monitor .main) before.health.main after.health.main
  let s := s.watchDeadline (.monitor .fallback) before.health.fallback after.health.fallback
  let s :=
    if before.health.main.isUp = after.health.main.isUp then s
    else
      let woken := (List.range after.tasks.size).filter fun i ↦
        after.tasks[i]?.any Task.isRunnable && before.tasks[i]?.all (!·.isRunnable)
      { s with turns := s.turns ++ woken.map .task }
  effects.foldl State.heed s

def State.apply (s : State) (event : Gateway.Event String) : State :=
  let (g, effects) := s.gateway.step event
  s.become g effects

def State.begin (s : State) (event : Gateway.Event String) : State :=
  let task := s.gateway.tasks.size
  let s := s.apply event
  if task < s.gateway.tasks.size then s.add (.task task) else s

def State.goOn (s : State) (task : Nat) : State :=
  if (s.gateway.tasks[task]?).any Task.isRunnable then s.addFirst (.task task) else s

/-! ## Summaries -/

def State.tell (s : State) (i : Nat) (result : Except RequestFault Bytes) : State :=
  match s.connections[i]? with
  | some c =>
    let (session, effects) := c.session.answer s.terms result
    { s with connections :=
        s.connections.setIfInBounds i { c with session, pending := c.pending ++ effects } }
  | none => s

/-- The other half of a merged summary has been had, or not, or is not needed. -/
def State.endMerged (s : State) (asker : Option Nat) (localHalf : Summary)
    (remote : Option (Except PeerFault Summary)) : State :=
  let (g, result) := s.gateway.endMerged localHalf remote
  let s := s.become g []
  match asker with
  | none => { s with merged := some result }
  | some i => s.tell i (Gateway.tidings result)

def State.askMerged (s : State) (asker : Option Nat) (w : Window) : State :=
  let (g, half) := s.gateway.beginMerged w
  let s := s.become g []
  match s.sibling.atOnce? with
  | some remote => s.endMerged asker half remote
  | none =>
    let due := s.now + s.sibling.delay
    let s := { s with inquiries := s.inquiries ++ [⟨asker, w, half, due⟩] }
    if s.now < due then s.setAlarm due .inquiry else s

def State.lock (s : State) (w : Window) : State × Summary :=
  let (g, summary) := s.gateway.lockSummary w s.now
  (s.become g [], summary)

def State.ask (s : State) (i : Nat) (scope : Scope) (query : Option String) : State :=
  match Window.asked query scope s.wall with
  | .error fault => s.tell i (.error fault)
  | .ok w =>
    match scope with
    | .lock =>
      let (s, summary) := s.lock w
      s.tell i (.ok summary.write)
    | .merged => s.askMerged (some i) w

/-- The sibling answers an inquiry, or it never will. A connection that has waited for it goes on
before anybody whom that wakes. -/
def State.resolve (s : State) (inquiry : Inquiry) : State :=
  let before := s.sibling
  let finding := before.inquire inquiry.window s.now s.wall
  let s := finding.notices.foldl State.warn { s with sibling := finding.sibling }
  let s := match before.monitor?, finding.sibling.monitor? with
    | some before, some after => s.watchDeadline .sibling before after
    | _, _ => s
  match finding.result with
  | some result =>
    let s := s.endMerged inquiry.asker inquiry.localHalf (some result)
    inquiry.asker.elim s fun i ↦ s.addFirst (.serve i)
  | none => s

/-! ## Connections -/

def turnLength : Nat := 128

def State.heedSession (s : State) (i : Nat) (effect : Edge.Effect) : State :=
  let s := (effect.notice?.map s.warn).getD s
  match effect with
  | .ingest _ payload => s.begin (.ingest payload)
  | .ask scope query => s.ask i scope query
  | .respond reply =>
    { s with
      connections := s.connections.modify i fun c ↦ { c with outbox := c.outbox ++ reply.write }
      spent := s.spent + 1 }
  | .begin _ | .discard .. | .report _ => s

/-- A connection would read or write, but all others have their turns first. -/
def State.giveWay (s : State) (i : Nat) : State := s.add (.serve i)

/-- A connection goes on: what is to be done for its session is done, and after that it reads what
has arrived, or the end of the stream if everything has been read. -/
def State.goOnServing (s : State) (i : Nat) : State :=
  match s.connections[i]? with
  | some c =>
    let mayMove := s.spent < turnLength
    match c.pending with
    | effect :: pending =>
      if effect.isWrite && !mayMove then s.giveWay i
      else
        let s := { s with connections := s.connections.setIfInBounds i { c with pending } }
        (s.addFirst (.goOn i)).heedSession i effect
    | [] =>
      if c.session.isReading && (c.ended || !c.inbox.isEmpty) then
        if mayMove then
          let octets := c.inbox.take (c.session.room s.terms)
          let (session, pending) := c.session.feed s.terms octets
          let inbox := c.inbox.drop octets.length
          { s with
            connections := s.connections.setIfInBounds i { c with session, pending, inbox }
            spent := s.spent + 1 }.addFirst (.goOn i)
        else s.giveWay i
      else s
  | none => s

/-! ## Turns -/

def State.take (s : State) : Turn → State
  | .task task => (s.apply (.run task s.wall.toMillis)).goOn task
  | .reply task outcome => (s.apply (.answer task outcome)).goOn task
  | .expire source deadline => s.apply (.expire source deadline)
  | .siblingExpire deadline => { s with sibling := s.sibling.expire deadline }
  | .serve connection => { s with spent := 0 }.goOnServing connection
  | .goOn connection => s.goOnServing connection

/-- Lets everything happen that can happen by itself, in at most so many turns. The sibling answers
when nobody else has a turn. -/
def State.settle (s : State) : Nat → State
  | 0 => s
  | n + 1 =>
    match s.turns with
    | turn :: turns => ({ s with turns }.take turn).settle n
    | [] =>
      match s.inquiries.find? (·.due ≤ s.now) with
      | some inquiry =>
        ({ s with inquiries := s.inquiries.erase inquiry }.resolve inquiry).settle n
      | none => s

/-- How many turns there can be at most before nothing can happen. A payload needs a few for each
attempt, is attempted once more for each call that is planned to fail, and is woken at most as often
as something makes a monitor go up; what does that has a turn, or is a request that has arrived. -/
def State.bound (s : State) : Nat :=
  let payloads := s.gateway.tasks.foldl (fun n t ↦ n + t.payloads.length + 1) s.gateway.queue.size
  let plans := s.processors.main.plans.length + s.processors.fallback.plans.length
  let requests := s.connections.foldl (fun n c ↦ n + c.inbox.length + c.pending.length + 1) 0
  16 * (payloads + plans + requests + s.turns.length + 8) *
    (requests + s.inquiries.length + s.turns.length + 8)

def State.rest (s : State) : State := s.settle s.bound

/-! ## The clock -/

def State.ring (s : State) : Ticks × Alarm → State
  | (_, .worker task) => (s.apply (.wakeWorker task)).add (.task task)
  | (deadline, alarm) => ((alarm.expiry? deadline).map s.add).getD s

def State.ringAll (s : State) : State :=
  let (due, later) := s.alarms.partition (·.1 ≤ s.now)
  due.foldl State.ring { s with alarms := later }

/-- Moves the clock to `target`, with a stop wherever a timer goes off, of which there are at most
so many. -/
def State.moveTo (s : State) (target : Ticks) : Nat → State
  | 0 => { s with now := target }
  | n + 1 =>
    match ((s.alarms.map (·.1)).filter (· ≤ target)).min? with
    | some deadline => ({ s with now := max s.now deadline }.ringAll.rest).moveTo target n
    | none => { s with now := target }

/-- How many stops there can be at most: each timer that is set makes one, and so do, as often as
they may be set anew meanwhile, those of the tasks that sleep. -/
def State.stops (s : State) (span : Ticks) : Nat :=
  (s.gateway.tasks.size + s.alarms.length + 4) * (span / Gateway.restingTime + 2) + s.bound

/-- Lets time pass. Timers that are due go off even if no time passes. -/
def State.pass (s : State) (span : Ticks) : State :=
  s.rest.moveTo (s.now + span) (s.stops span)

/-! ## Instructions -/

/-- A time for the ledger. -/
inductive When where
  | at_ (t : Millis)
  /-- So long before now. -/
  | ago (span : Nat)
deriving DecidableEq, Repr

/-- An instruction. -/
inductive Step where
  /-- Payloads are handed in, one right after the other. -/
  | ingest (payloads : List String)
  | process (payload : String)
  | sweep
  | workers (wanted : Nat)
  | enqueue (payload : String)
  | drain (atMost : Nat)
  | down (source : Source)
  | up (source : Source)
  /-- Up and down again before anybody has a turn. -/
  | flap (source : Source)
  | advance (span : Ticks)
  /-- Calls that wait for a permit may end, so many of them. -/
  | release (source : Source) (permits : Nat)
  | save (source : Source) (amount : Decimal) (time : When)
  | purge
  | localSummary (window : Window)
  | lockSummary (window : Window)
  | mergedSummary (window : Window)
  /-- The calls to processors so far. -/
  | seen
  /-- A client connects. -/
  | connect
  /-- A client writes. -/
  | send (connection : Nat) (octets : Bytes)
  /-- A client writes no more. -/
  | finish (connection : Nat)
  /-- The edge server stops listening. -/
  | stop
deriving Repr

/-- What an instruction answers by itself. -/
inductive Result where
  | nothing
  /-- A number: of a task, of a connection, or of workers. -/
  | number (n : Nat)
  | accepted (yes : Bool)
  | entries (payloads : Array String)
  | summary (summary : Summary)
  | merged (result : Option (Except PeerFault Summary))
  | calls (seen : List (Source × Payment))
  /-- Nobody listens. -/
  | refused
  /-- What a client has received, and whether the server has closed the connection. -/
  | received (octets : Bytes) (closed : Bool)
  /-- The edge server has stopped; its socket file is there or not. -/
  | stopped (socketExists : Bool)

/-- What an instruction came to. -/
structure Answer where
  result : Result
  up : PerSource Bool
  waiting : Nat
  dropped : Nat
  calls : PerSource Nat
  /-- The tasks begun by the rehearsal that have ended, by their numbers there. -/
  ended : List (Nat × TaskResult)
  notices : List Notice
  /-- Whether a live sibling holds main to be up. -/
  siblingUp : Option Bool

def State.beginNumbered (s : State) (event : Gateway.Event String) : State × Result :=
  let n := s.begun.size
  ({ s with begun := s.begun.push s.gateway.tasks.size }.begin event, .number n)

/-- Calls that wait for a permit end, and what is left over is kept for others. -/
def State.release (s : State) (source : Source) (permits : Nat) : State :=
  let p := s.processors.get source
  let ending := p.held.take permits
  let p := { p with
    held := p.held.drop permits
    permits := p.permits + (permits - ending.length) }
  let s := { s with processors := s.processors.set source p }
  { s with turns := s.turns ++ ending.map (.reply · .taken) }

def State.connect (s : State) : State × Result :=
  match s.door with
  | .shut => (s, .refused)
  | _ =>
    let i := s.connections.size
    let (session, pending) := Edge.Session.start s.terms
    let s := { s with
      door := .opened
      connections := s.connections.push ⟨session, pending, [], false, []⟩ }
    (s.add (.serve i), .number i)

def State.onConnection (s : State) (i : Nat) (change : Connection → Connection) : State :=
  { s with connections := s.connections.modify i change }.add (.serve i)

def State.receive (s : State) (i : Nat) : State × Result :=
  match s.connections[i]? with
  | some c =>
    ({ s with connections := s.connections.setIfInBounds i { c with outbox := [] } },
      .received c.outbox (c.session == .closed))
  | none => (s, .received [] true)

def State.time (s : State) : When → Millis
  | .at_ t => t
  | .ago span => s.wall.toMillis - span

def State.begins (s : State) : Step → State × Result
  | .ingest payloads => (payloads.foldl (fun s p ↦ s.begin (.ingest p)) s, .nothing)
  | .process payload => s.beginNumbered (.process payload)
  | .sweep => s.beginNumbered .sweep
  | .workers wanted =>
    let n := Gateway.workerCount wanted
    ((List.range n).foldl (fun s _ ↦ s.begin .startWorker) s, .number n)
  | .enqueue payload =>
    let (g, effects) := s.gateway.enqueue payload
    (s.become g effects, .accepted (effects == [.queued payload]))
  | .drain atMost =>
    let (entries, queue) := s.gateway.queue.drain atMost
    (s.become { s.gateway with queue } [], .entries entries)
  | .down source => (s.apply (.markDown source s.now), .nothing)
  | .up source => (s.apply (.markUp source), .nothing)
  | .flap source => ((s.apply (.markUp source)).apply (.markDown source s.now), .nothing)
  | .advance _ => (s, .nothing)
  | .release source permits => (s.release source permits, .nothing)
  | .save source amount time =>
    let ledger := s.gateway.ledger.save source (s.time time) amount
    (s.become { s.gateway with ledger } [], .nothing)
  | .purge => (s.apply .purge, .nothing)
  | .localSummary w => (s, .summary (s.gateway.localSummary w))
  | .lockSummary w =>
    let (s, summary) := s.lock w
    (s, .summary summary)
  | .mergedSummary w => ({ s with merged := none }.askMerged none w, .nothing)
  | .seen => (s, .calls s.seen.reverse)
  | .connect => s.connect
  | .send i octets =>
    (s.onConnection i fun c ↦
      if c.ended then c else { c with inbox := c.inbox ++ octets }, .nothing)
  | .finish i => (s.onConnection i ({ · with ended := true }), .nothing)
  | .stop => ({ s with door := .shut }, .stopped false)

def Step.span : Step → Ticks
  | .advance span => span
  | _ => 0

/-- What an instruction answers when nothing can happen any more. The rehearsal itself does not wait
for a sibling any longer than that. -/
def State.ends (s : State) (result : Result) : Step → State × Result
  | .mergedSummary _ =>
    ({ s with inquiries := s.inquiries.filter (·.asker.isSome) }, .merged s.merged)
  | .send i _ => s.receive i
  | .finish i => s.receive i
  | _ => (s, result)

/-- The tasks begun by the rehearsal that have ended, by their numbers there. -/
def State.endedNumbers (s : State) : List (Nat × TaskResult) :=
  (s.ended.filterMap fun (task, result) ↦
    (s.begun.findIdx? (· == task)).map (·, result)).mergeSort (·.1 ≤ ·.1)

/-- Carries out an instruction and lets everything happen that can happen by itself. -/
def State.step (s : State) (instruction : Step) : State × Answer :=
  let (s, result) := s.begins instruction
  let s := s.pass instruction.span
  let (s, result) := s.ends result instruction
  ({ s with ended := [], notices := [] },
    { result
      up := s.gateway.health.map (·.isUp)
      waiting := s.gateway.queue.size
      dropped := s.gateway.queue.dropped
      calls := s.processors.map (·.calls)
      ended := s.endedNumbers
      notices := s.notices.reverse
      siblingUp := s.sibling.monitor?.map (·.isUp) })

/-- How a rehearsal begins. -/
structure Setting where
  terms : Gateway.Terms
  edge : Edge.Terms
  plans : PerSource (List Plan)
  sibling : Sibling
  wall : Instant

def start (setting : Setting) : State where
  gateway := .new setting.terms
  processors := setting.plans.map fun plans ↦ ⟨plans, 0, 0, []⟩
  sibling := setting.sibling
  terms := setting.edge
  door := .unopened
  connections := #[]
  now := 0
  wall := setting.wall
  alarms := []
  turns := []
  spent := 0
  inquiries := []
  begun := #[]
  seen := []
  ended := []
  notices := []
  merged := none

def run (s : State) : List Step → List Answer
  | [] => []
  | instruction :: rest =>
    let (s, answer) := s.step instruction
    answer :: run s rest

end PaymentRelay.GatewayRehearsal
