import Mathlib.Data.List.Nodup
import PaymentRelay.Proofs.Processor.Leases

/-!
# Where a processor's connections come from and where they end

The calls to a processor share a pool, and beside them errands bring the pool its connections: one
is sent for as many as the pool keeps when the program starts, and one for each connection that is
replaced. An errand has what it has dialed until all its dials are over, and then hands it over
piece by piece, while calls go on. So a connection may be with an errand for a long time.

A call may give its connection back at any time here, not only when it has read a response; and
errands may be given up. Whatever happens in whatever order, a connection that is open is with the
pool, with one call or with one errand, and a connection that nobody has is closed and stays closed.
-/

namespace PaymentRelay.Processor

/-- A dial of an errand. -/
inductive Dial where
  /-- It is not over. -/
  | underWay
  /-- It has failed. -/
  | failed
  /-- It has brought a connection. -/
  | made (link : Nat)
deriving DecidableEq, Repr

def Dial.link? : Dial → Option Nat
  | .made link => some link
  | .underWay | .failed => none

/-- The calls to one processor, and the errands that bring connections to its pool. -/
structure Supplied where
  client : Client
  /-- All errands ever sent, by number: the dials of each that it has not dealt with. -/
  errands : Array (List Dial)

namespace Supplied

def new (terms : Terms) (size : Nat) : Supplied := ⟨.new terms size, #[]⟩

/-- A step. -/
inductive Event where
  /-- A step of the client. -/
  | client (event : Client.Event)
  /-- A call gives its connection back and is over. -/
  | release (call : Nat) (outcome : ProcessorOutcome)
  /-- An errand is sent for as many connections as the pool keeps. -/
  | warmUp
  /-- An errand is sent for a connection in place of one that was broken. -/
  | redial
  /-- A dial of an errand is over. -/
  | arrived (errand dial : Nat) (made : Bool)
  /-- An errand whose dials are all over deals with the first of them. -/
  | handOver (errand : Nat)
  /-- An errand is given up, and its connections are closed. -/
  | giveUp (errand : Nat)

/-- An errand is sent. -/
def send (s : Supplied) (dials : List Dial) : Supplied := { s with errands := s.errands.push dials }

/-- A call gives its connection back. -/
def releaseStep (s : Supplied) (call : Nat) (outcome : ProcessorOutcome) : Supplied :=
  match s.client.held? call with
  | some i => { s with client := (s.client.giveBack i).setStage call (.finished outcome) }
  | none => s

def arriveStep (s : Supplied) (errand dial : Nat) (made : Bool) : Supplied :=
  if (s.errands[errand]?).bind (·[dial]?) = some .underWay then
    let errands (result : Dial) := s.errands.modify errand (·.modify dial fun _ ↦ result)
    if made then ⟨s.client.addLink, errands (.made s.client.links.size)⟩
    else { s with errands := errands .failed }
  else s

/-- An errand whose dials are all over deals with the first of them. -/
def handOverStep (s : Supplied) (errand : Nat) : Supplied :=
  match s.errands[errand]? with
  | some (dial :: dials) =>
    if .underWay ∈ dial :: dials then s
    else ⟨dial.link?.elim s.client s.client.giveBack, s.errands.modify errand fun _ ↦ dials⟩
  | _ => s

def giveUpStep (s : Supplied) (errand : Nat) : Supplied :=
  match s.errands[errand]? with
  | some dials =>
    ⟨(dials.filterMap Dial.link?).foldl Client.close s.client, s.errands.modify errand fun _ ↦ []⟩
  | none => s

def step (s : Supplied) : Event → Supplied
  | .client event => { s with client := s.client.step event }
  | .release call outcome => s.releaseStep call outcome
  | .warmUp => s.send (List.replicate s.client.pool.size .underWay)
  | .redial =>
    if s.client.replacements = 0 then s
    else
      let client := { s.client with replacements := s.client.replacements - 1 }
      { s with client }.send [.underWay]
  | .arrived errand dial made => s.arriveStep errand dial made
  | .handOver errand => s.handOverStep errand
  | .giveUp errand => s.giveUpStep errand

def run (s : Supplied) (events : List Event) : Supplied := events.foldl step s

/-- The connections that errands have. -/
def inHand (s : Supplied) : List Nat := s.errands.toList.flatMap (·.filterMap Dial.link?)

/-- How often somebody has a connection: the pool, a call, or an errand. -/
def holders (s : Supplied) (i : Nat) : Nat :=
  s.client.pool.idle.count i + (s.client.calls.toList.filterMap (·.stage.link?)).count i +
    s.inHand.count i

/-! ## Errands -/

section Errands

variable {s : Supplied} {e : Nat} {dials : List Dial}

theorem inHand_modify (there : s.errands[e]? = some dials) (f : List Dial → List Dial)
    (client : Client) :
    ∃ rest, s.inHand.Perm (dials.filterMap Dial.link? ++ rest) ∧
      (⟨client, s.errands.modify e f⟩ : Supplied).inHand.Perm
        ((f dials).filterMap Dial.link? ++ rest) := by
  rw [← Array.getElem?_toList] at there
  obtain ⟨before, after, was, is_⟩ := flatMap_modify there f (·.filterMap Dial.link?)
  have front (own : List Nat) : (before ++ own ++ after).Perm (own ++ (before ++ after)) := by
    rw [← List.append_assoc]
    exact .append_right after List.perm_append_comm
  refine ⟨before ++ after, ?_, ?_⟩
  · rw [inHand, was]
    exact front _
  · rw [inHand, Array.toList_modify, is_]
    exact front _

theorem inHand_send (s : Supplied) (n : Nat) :
    (s.send (List.replicate n .underWay)).inHand = s.inHand := by
  have nothing : (List.replicate n Dial.underWay).filterMap Dial.link? = [] := by
    rw [List.filterMap_replicate_of_none rfl]
  rw [inHand, send, Array.toList_push, List.flatMap_append, List.flatMap_singleton, nothing,
    List.append_nil, inHand]

end Errands

/-! ## Who has which connection -/

/-- Everything is in order: connections are had by one at a time and exactly those that somebody has
are open, and the pool keeps within its bound. -/
structure Sound (size : Nat) (s : Supplied) : Prop where
  owned : s.client.Owned
  sole : s.client.Sole s.inHand
  within : s.client.pool.Within size

/-- Everything is in order after a step, what was closed is closed, and calls that have left the
line take nothing from the pool. -/
structure Goes (size : Nat) (s s' : Supplied) : Prop where
  sound : s'.Sound size
  onward : s.client.Onward s'.client
  alone : ∀ a n, s.client.OnItsOwn a n → s'.client.OnItsOwn a n

section Steps

variable {size : Nat} {s : Supplied}

theorem Sound.refl (sound : s.Sound size) : Goes size s s := ⟨sound, .refl _, fun _ _ ↦ id⟩

theorem Goes.trans {s' s'' : Supplied} (goes : Goes size s s') (goes' : Goes size s' s'') :
    Goes size s s'' where
  sound := goes'.sound
  onward := goes.onward.trans goes'.onward
  alone a n alone := goes'.alone a n (goes.alone a n alone)

theorem Sound.client (sound : s.Sound size) (event : Client.Event) :
    Goes size s (s.step (.client event)) := by
  have handover := sound.owned.step event
  have sole : (s.client.step event).Sole s.inHand := sound.sole.step sound.owned event
  exact ⟨⟨handover.owned, sole, sound.within.step (sound.owned.deal event)⟩,
    handover.onward sound.sole sole, fun a n alone ↦ alone.step sound.owned event⟩

/-- The calls are the same, and connections have come to the pool, gone from it, or been closed. -/
theorem Sound.goes {client : Client} {errands : Array (List Dial)} (sound : s.Sound size)
    (sole : client.Sole (⟨client, errands⟩ : Supplied).inHand)
    (calls : client.calls = s.client.calls) (line : client.line = s.client.line)
    (within : client.pool.Within size) (onward : s.client.Onward client) :
    Goes size s ⟨client, errands⟩ :=
  ⟨⟨sound.owned.of_sole sole calls line, sole, within⟩, onward,
    fun _ _ alone ↦ alone.same calls onward.links⟩

theorem Sound.release (sound : s.Sound size) (a : Nat) (outcome : ProcessorOutcome) :
    Goes size s (s.releaseStep a outcome) := by
  rw [releaseStep]
  split
  · next i held =>
    obtain ⟨call, there, held⟩ := Option.bind_eq_some_iff.mp held
    let c' := (s.client.giveBack i).setStage a (.finished outcome)
    have handover : s.client.Handover c' := sound.owned.finish there held rfl
    have sole : c'.Sole s.inHand := sound.sole.finish there held rfl
    have deal : s.client.Deal c' := Client.deal_finish there held rfl
    refine ⟨⟨handover.owned, sole, sound.within.step deal⟩, handover.onward sound.sole sole, ?_⟩
    intro b n alone
    refine alone.of_deal sound.owned deal ?_ handover.links
    obtain ⟨other, there', out⟩ := alone.begun
    have calls : c'.calls = s.client.calls.modify a ({ · with stage := .finished outcome }) := by
      rw [Client.setStage_calls, Client.giveBack_calls]
    rw [calls, Array.getElem?_modify, there']
    split
    · exact ⟨_, rfl, nofun⟩
    · exact ⟨other, rfl, out⟩
  · exact sound.refl

theorem Sound.sole_modify {e : Nat} {dials : List Dial} {client : Client} (sound : s.Sound size)
    (there : s.errands[e]? = some dials) (f : List Dial → List Dial)
    (move : ∀ rest, s.client.Sole (dials.filterMap Dial.link? ++ rest) →
      client.Sole ((f dials).filterMap Dial.link? ++ rest)) :
    client.Sole (⟨client, s.errands.modify e f⟩ : Supplied).inHand := by
  obtain ⟨rest, was, is_⟩ := inHand_modify there f client
  exact (move rest (sound.sole.pass was.symm)).pass is_

theorem Sound.send (sound : s.Sound size) (n : Nat) :
    Goes size s (s.send (List.replicate n .underWay)) := by
  refine sound.goes ?_ rfl rfl sound.within (.refl _)
  have same := inHand_send s n
  rw [Supplied.send] at same
  rw [same]
  exact sound.sole

theorem Sound.redial (sound : s.Sound size) : Goes size s (s.step .redial) := by
  rw [step]
  split
  · exact sound.refl
  · let s' : Supplied :=
      { s with client := { s.client with replacements := s.client.replacements - 1 } }
    have fewer : Goes size s s' :=
      sound.goes (sound.sole.same rfl rfl (Client.isOpen_of_links rfl)) rfl rfl sound.within
        ⟨fun _ ↦ .inl, Nat.le_refl _⟩
    exact fewer.trans (fewer.sound.send 1)

theorem Sound.arrive (sound : s.Sound size) (e k : Nat) (made : Bool) :
    Goes size s (s.arriveStep e k made) := by
  rw [arriveStep]
  split
  · next found =>
    obtain ⟨dials, there, under⟩ := Option.bind_eq_some_iff.mp found
    dsimp only
    split
    · refine sound.goes (sound.sole_modify there _ fun rest sole ↦ ?_) rfl rfl sound.within
        (Client.onward_addLink _)
      obtain ⟨before, after, was, is_⟩ := filterMap_modify under
        (fun _ ↦ .made s.client.links.size) Dial.link?
      rw [was] at sole
      rw [is_]
      refine sole.addLink.pass ?_
      simp only [Dial.link?, Option.toList_some, Option.toList_none, List.append_assoc,
        List.singleton_append, List.nil_append]
      exact List.perm_middle
    · refine sound.goes (sound.sole_modify there _ fun rest sole ↦ ?_) rfl rfl sound.within
        (.refl _)
      obtain ⟨before, after, was, is_⟩ := filterMap_modify under (fun _ ↦ .failed) Dial.link?
      rw [was] at sole
      rw [is_]
      exact sole
  · exact sound.refl

theorem Sound.handOver (sound : s.Sound size) (e : Nat) : Goes size s (s.handOverStep e) := by
  rw [handOverStep]
  split
  · next dial dials there =>
    split
    · exact sound.refl
    · rcases brought : dial.link? with _ | i
      · refine sound.goes (sound.sole_modify there _ fun rest sole ↦ ?_) rfl rfl sound.within
          (.refl _)
        rwa [List.filterMap_cons_none brought] at sole
      · refine sound.goes (sound.sole_modify there _ fun rest sole ↦ ?_)
          (Client.giveBack_calls ..) (Client.giveBack_line ..)
          ((Client.giveBack_pool s.client i).symm ▸ sound.within.put i)
          (Client.onward_giveBack s.client i)
        rw [List.filterMap_cons_some brought] at sole
        exact sole.giveBack
  · exact sound.refl

theorem Sound.giveUp (sound : s.Sound size) (e : Nat) : Goes size s (s.giveUpStep e) := by
  rw [giveUpStep]
  split
  · next dials there =>
    obtain ⟨calls, line, pool, -⟩ := Client.closeAll_rest s.client (dials.filterMap Dial.link?)
    exact sound.goes (sound.sole_modify there _ fun _ sole ↦ sole.closeAll) calls line
      (pool.symm ▸ sound.within) (Client.onward_closeAll ..)
  · exact sound.refl

/-- **Everything is in order after a step.** -/
theorem Sound.step (sound : s.Sound size) (event : Event) : Goes size s (s.step event) := by
  cases event with
  | client event => exact sound.client event
  | release a outcome => exact sound.release a outcome
  | warmUp => exact sound.send _
  | redial => exact sound.redial
  | arrived e k made => exact sound.arrive e k made
  | handOver e => exact sound.handOver e
  | giveUp e => exact sound.giveUp e

/-- **And after a run.** -/
theorem Sound.run (sound : s.Sound size) (events : List Event) : Goes size s (s.run events) := by
  induction events generalizing s with
  | nil => exact sound.refl
  | cons event events ih =>
    have one := sound.step event
    exact one.trans (ih one.sound)

theorem sound_new (terms : Terms) (size : Nat) : (new terms size).Sound size where
  owned := Client.owned_new terms size
  sole := by
    refine ⟨List.nodup_nil, fun i ↦ iff_of_false ?_ List.not_mem_nil⟩
    rintro ⟨l, here, -⟩
    cases here
  within := ⟨rfl, Nat.zero_le _⟩

/-- **Whoever has a connection has it alone**, and it is open; what nobody has is closed. -/
theorem Sound.holders (sound : s.Sound size) (i : Nat) :
    (s.client.IsOpen i → s.holders i = 1) ∧ (¬ s.client.IsOpen i → s.holders i = 0) := by
  have all : s.holders i = (s.client.kept ++ s.inHand).count i := by
    rw [Supplied.holders, Client.kept, List.count_append, List.count_append]
  rw [all, sound.sole.isOpen i]
  exact ⟨List.count_eq_one_of_mem sound.sole.nodup, List.count_eq_zero.mpr⟩

end Steps

/-! ## How leases end -/

/-- A connection is closed for good, and nobody will have it. -/
def Gone (s : Supplied) (i : Nat) : Prop :=
  ∀ events, ¬ (s.run events).client.IsOpen i ∧ (s.run events).holders i = 0

/-- A call has dropped its connection: it is gone, and one is dialed in its place. -/
structure Dropped (s s' : Supplied) (i : Nat) : Prop where
  pool : s'.client.pool = s.client.pool
  errands : s'.errands = s.errands
  replacements : s'.client.replacements = s.client.replacements + 1
  gone : s'.Gone i

/-- A call has given its connection back: the pool has it, or it is gone if the pool was full. -/
structure Released (s s' : Supplied) (i : Nat) : Prop where
  pool : s'.client.pool = s.client.pool.put i
  errands : s'.errands = s.errands
  replacements : s'.client.replacements = s.client.replacements
  surplus : s.client.pool.hasRoom = false → s'.Gone i

/-- A call has waited too long: nobody else notices, and the call will have no connection that has
been made by now. -/
structure TimedOut (s s' : Supplied) (a : Nat) : Prop where
  pool : s'.client.pool = s.client.pool
  links : s'.client.links = s.client.links
  errands : s'.errands = s.errands
  replacements : s'.client.replacements = s.client.replacements
  own : ∀ events i, (s'.run events).client.held? a = some i → s.client.links.size ≤ i

section Ends

variable {size : Nat} {s s' : Supplied} {a i : Nat}

theorem Sound.made (sound : s.Sound size) (held : s.client.held? a = some i) :
    i < s.client.links.size := by
  obtain ⟨call, there, held⟩ := Option.bind_eq_some_iff.mp held
  exact sound.owned.made i (Client.held_mem_kept there held)

theorem Sound.gone (sound : s.Sound size) (made : i < s.client.links.size)
    (closed : ¬ s.client.IsOpen i) : s.Gone i := by
  intro events
  have goes := sound.run events
  have still := goes.onward.closed made closed
  exact ⟨still, (goes.sound.holders i).2 still⟩

section Goes

variable (sound : s.Sound size) (goes : Goes size s s') (errands : s'.errands = s.errands)
  (held : s.client.held? a = some i)
include sound goes errands held

theorem Sound.dropped (replaced : s.client.Replaced s'.client i) : Dropped s s' i := by
  obtain ⟨pool, replacements, shut, -⟩ := replaced
  refine ⟨pool, errands, replacements, ?_⟩
  refine goes.sound.gone (Nat.lt_of_lt_of_le (sound.made held) goes.onward.links) ?_
  rintro ⟨l, here, open_⟩
  rw [shut l here] at open_
  cases open_

theorem Sound.released (gave : s.client.GaveBack s'.client i)
    (surplus : s.client.pool.hasRoom = false → ¬ s'.client.IsOpen i) : Released s s' i := by
  obtain ⟨pool, replacements⟩ := gave
  refine ⟨pool, errands, replacements, fun full ↦ ?_⟩
  exact goes.sound.gone (Nat.lt_of_lt_of_le (sound.made held) goes.onward.links) (surplus full)

theorem Sound.ended (deal : s.client.Deal s'.client) (isOver : s'.client.held? a ≠ some i) :
    Dropped s s' i ∨ Released s s' i := by
  rcases deal.ends held isOver with ⟨gave, surplus⟩ | replaced
  · exact .inr (sound.released goes errands held gave surplus)
  · exact .inl (sound.dropped goes errands held replaced)

end Goes

/-- A step is one that calls take with their connections, or it leaves the calls alone. -/
theorem Sound.step_cases (sound : s.Sound size) (event : Event) :
    (s.client.Deal (s.step event).client ∧ (s.step event).errands = s.errands) ∨
      ((s.step event).client.calls = s.client.calls ∧
        (s.step event).client.replacements ≤ s.client.replacements) := by
  have none_ : s.client.calls = s.client.calls ∧
      s.client.replacements ≤ s.client.replacements := ⟨rfl, Nat.le_refl _⟩
  cases event with
  | client event => exact .inl ⟨sound.owned.deal event, rfl⟩
  | release a outcome =>
    rw [Supplied.step, releaseStep]
    split
    · next i held =>
      obtain ⟨call, there, held⟩ := Option.bind_eq_some_iff.mp held
      exact .inl ⟨Client.deal_finish there held rfl, rfl⟩
    · exact .inr none_
  | warmUp => exact .inr none_
  | redial =>
    rw [Supplied.step]
    split
    · exact .inr none_
    · exact .inr ⟨rfl, Nat.sub_le _ _⟩
  | arrived e k made =>
    rw [Supplied.step, arriveStep]
    split
    · dsimp only
      split <;> exact .inr none_
    · exact .inr none_
  | handOver e =>
    rw [Supplied.step, handOverStep]
    split
    · next dial dials there =>
      split
      · exact .inr none_
      · cases dial.link? with
        | none => exact .inr none_
        | some i =>
          exact .inr ⟨Client.giveBack_calls .., Nat.le_of_eq (Client.giveBack_replacements ..)⟩
    · exact .inr none_
  | giveUp e =>
    rw [Supplied.step, giveUpStep]
    split
    · next dials there =>
      obtain ⟨calls, -, -, replacements⟩ :=
        Client.closeAll_rest s.client (dials.filterMap Dial.link?)
      exact .inr ⟨calls, Nat.le_of_eq replacements⟩
    · exact .inr none_

/-- **A call keeps its connection in a step, drops it, or gives it back.** -/
theorem Sound.keeps (sound : s.Sound size) (held : s.client.held? a = some i) (event : Event) :
    (s.step event).client.held? a = some i ∨
      Dropped s (s.step event) i ∨ Released s (s.step event) i := by
  by_cases isOver : (s.step event).client.held? a = some i
  · exact .inl isOver
  rcases sound.step_cases event with ⟨deal, errands⟩ | ⟨calls, -⟩
  · exact .inr (sound.ended (sound.step event) errands held deal isOver)
  · exact absurd ((Client.held?_same calls a).trans held) isOver

/-- **Only a call that drops its connection has one dialed in its place.** -/
theorem Sound.replacements (sound : s.Sound size) (event : Event) :
    (s.step event).client.replacements ≤ s.client.replacements ∨
      ∃ a i, s.client.held? a = some i ∧ Dropped s (s.step event) i := by
  rcases sound.step_cases event with ⟨deal, errands⟩ | ⟨-, fewer⟩
  · rcases deal.replacements with fewer | ⟨a, i, held, replaced⟩
    · exact .inl fewer
    · exact .inr ⟨a, i, held, sound.dropped (sound.step event) errands held replaced⟩
  · exact .inl fewer

theorem Sound.abandon (sound : s.Sound size) (held : s.client.held? a = some i) :
    Dropped s (s.step (.client (.abandon a))) i := by
  obtain ⟨call, there, has⟩ := Option.bind_eq_some_iff.mp held
  have fails := Client.abandonStep_of_held there has
  refine sound.dropped (sound.client (.abandon a)) rfl held ?_
  have replaced := sound.owned.replaced_fail there has .abandoned rfl
  rwa [← fails] at replaced

theorem Sound.givesBack (sound : s.Sound size) (held : s.client.held? a = some i)
    (outcome : ProcessorOutcome) : Released s (s.step (.release a outcome)) i := by
  have goes := sound.release a outcome
  rw [Supplied.step]
  rw [releaseStep, held] at goes ⊢
  obtain ⟨call, there, has⟩ := Option.bind_eq_some_iff.mp held
  exact sound.released goes rfl held ⟨Client.giveBack_pool .., Client.giveBack_replacements ..⟩
    Client.not_isOpen_giveBack

theorem Sound.timesOut (sound : s.Sound size) {payment : Payment} {requestedAt : Millis}
    {deadline : Ticks}
    (there : s.client.calls[a]? = some ⟨payment, requestedAt, .waiting deadline⟩) :
    TimedOut s (s.step (.client (.expire a))) a := by
  let c' := { s.client with line := s.client.line.erase a }.setStage a .dialing
  have left : s.step (.client (.expire a)) = { s with client := c' } := by
    rw [Supplied.step, Client.step, Client.expireStep, there]
  have there' : c'.calls[a]? = some ⟨payment, requestedAt, .dialing⟩ := by
    rw [Client.setStage_calls, Array.getElem?_modify, if_pos rfl, there]
    rfl
  have alone : c'.OnItsOwn a s.client.links.size := by
    refine ⟨⟨_, there', fun _ waits ↦ by cases waits⟩, fun i held ↦ ?_, Nat.le_refl _⟩
    rw [Client.held?_of_there there'] at held
    cases held
  have goes := sound.client (.expire a)
  rw [left] at goes ⊢
  refine ⟨rfl, rfl, rfl, rfl, fun events i ↦ ?_⟩
  exact ((goes.sound.run events).alone a _ alone).own i

end Ends

/-- **A connection is in one hand while it is open, and in none once it is closed.** The pool keeps
no more connections than its size, or one. A call that has a connection keeps it until it drops it
or gives it back. What is dropped is gone, and one is dialed in its place, as for nothing else; what
is given back is the pool's, or gone if the pool is full. A call that has waited too long takes
nothing from the pool. -/
theorem connections_in_one_hand (terms : Terms) (size : Nat) (events : List Event) :
    let s := (new terms size).run events
    (∀ i, (s.client.IsOpen i → s.holders i = 1) ∧ (¬ s.client.IsOpen i → s.holders i = 0)) ∧
      s.client.pool.idle.length ≤ max size 1 ∧
      (∀ a i, s.client.held? a = some i →
        Dropped s (s.step (.client (.abandon a))) i ∧
          (∀ outcome, Released s (s.step (.release a outcome)) i) ∧
          ∀ event, (s.step event).client.held? a = some i ∨
            Dropped s (s.step event) i ∨ Released s (s.step event) i) ∧
      (∀ event, (s.step event).client.replacements ≤ s.client.replacements ∨
        ∃ a i, s.client.held? a = some i ∧ Dropped s (s.step event) i) ∧
      ∀ a payment requestedAt deadline,
        s.client.calls[a]? = some ⟨payment, requestedAt, .waiting deadline⟩ →
          TimedOut s (s.step (.client (.expire a))) a := by
  intro s
  have sound : s.Sound size := ((sound_new terms size).run events).sound
  refine ⟨sound.holders, sound.within.2, fun a i held ↦ ?_, sound.replacements, ?_⟩
  · exact ⟨sound.abandon held, sound.givesBack held, sound.keeps held⟩
  · exact fun a payment requestedAt deadline there ↦ sound.timesOut there

/-- One call has the connection that was dialed in advance, one has dialed another and one is in
line; the pool is full again. -/
def crowded : List Event :=
  [.warmUp, .arrived 0 0 true, .handOver 0, .client (.call ⟨"a", .zero⟩ 0 0),
    .client (.call ⟨"b", .zero⟩ 0 0), .client (.call ⟨"c", .zero⟩ 0 0), .client .lease,
    .client (.expire 1), .client (.dialed 1 none), .warmUp, .arrived 1 0 true, .handOver 1]

/-- The first call is given up, the second is through while the pool is full, and the third has
waited too long. -/
theorem crowded_connections_end :
    let s := (new ⟨"localhost", 5⟩ 1).run crowded
    s.client.pool.idle = [2] ∧ Dropped s (s.step (.client (.abandon 0))) 0 ∧
      (s.step (.release 1 .taken)).Gone 1 ∧ TimedOut s (s.step (.client (.expire 2))) 2 := by
  intro s
  obtain ⟨-, -, ends, -, timeout⟩ := connections_in_one_hand ⟨"localhost", 5⟩ 1 crowded
  have first : s.client.held? 0 = some 0 := by decide +kernel
  have second : s.client.held? 1 = some 1 := by decide +kernel
  have full : s.client.pool.idle = [2] ∧ s.client.pool.hasRoom = false := by decide +kernel
  have third : s.client.calls[2]? = some ⟨⟨"c", .zero⟩, 0, .waiting 5⟩ := by decide +kernel
  refine ⟨full.1, (ends 0 0 first).1, ?_, timeout 2 _ _ _ third⟩
  exact ((ends 1 1 second).2.1 .taken).surplus full.2

/-! ## Errands that nothing comes between -/

/-- An errand for one connection that nothing comes between. -/
theorem run_errand (s : Supplied) (made : Bool) :
    ((s.send [.underWay]).run [.arrived s.errands.size 0 made, .handOver s.errands.size]).client
      = if made then s.client.addLink.giveBack s.client.links.size else s.client := by
  have sent : (s.send [.underWay]).errands[s.errands.size]? = some [.underWay] :=
    Array.getElem?_push_size
  have back (result : Dial) : ((s.send [.underWay]).errands.modify s.errands.size
      (·.modify 0 fun _ ↦ result))[s.errands.size]? = some [result] := by
    rw [Array.getElem?_modify, if_pos rfl, sent]
    rfl
  have brought : ((s.send [.underWay]).errands[s.errands.size]?).bind (·[0]?)
      = some .underWay := by
    rw [sent]
    rfl
  simp only [run, List.foldl_cons, List.foldl_nil, step, arriveStep, if_pos brought]
  cases made with
  | true =>
    simp only [if_true, handOverStep, back]
    rfl
  | false =>
    simp only [Bool.false_eq_true, if_false, handOverStep, back]
    rfl

/-- If it brings one in place of a broken one, it does what the client does in one step. -/
theorem run_redial (s : Supplied) (made : Bool) :
    (s.run [.redial, .arrived s.errands.size 0 made, .handOver s.errands.size]).client
      = s.client.step (.replaced made) := by
  by_cases some_ : s.client.replacements = 0
  · simp [run, step, some_, arriveStep, handOverStep, Client.step, Client.replaceStep]
  · have fewer := run_errand
      { s with client := { s.client with replacements := s.client.replacements - 1 } } made
    rw [run, List.foldl_cons, step, if_neg some_, Client.step, Client.replaceStep, if_neg some_]
    exact fewer

end Supplied

end PaymentRelay.Processor
