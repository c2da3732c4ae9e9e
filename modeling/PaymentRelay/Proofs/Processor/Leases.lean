import PaymentRelay.Proofs.Processor.Exclusive

/-!
# How leases begin and end

A step of the client does at most one thing with connections: the first call in line leases the one
that has been idle longest, a call takes one that it has dialed itself, a new one goes to the pool,
or a call gives its connection back or has it replaced. `Deal` lists these, with all that each does
to the pool, to the leases and to the number of replacements.

A call that has left the line for want of a connection takes none from the pool any more: it is
`OnItsOwn`.
-/

namespace PaymentRelay.Processor.Client

/-- The connection that a call has leased. -/
def held? (c : Client) (a : Nat) : Option Nat := (c.calls[a]?).bind (·.stage.link?)

/-- What a step does with connections. -/
inductive Deal (c c' : Client) : Prop where
  /-- Nothing. -/
  | nothing (pool : c'.pool = c.pool) (leases : ∀ b, c'.held? b = c.held? b)
      (replacements : c'.replacements ≤ c.replacements)
  /-- The first call in line leases the connection that has been idle longest. -/
  | take {a i : Nat} {line idle : List Nat} (first : c.line = a :: line)
      (front : c.pool.idle = i :: idle) (free : c.held? a = none)
      (pool : c'.pool = { c.pool with idle })
      (leases : ∀ b, c'.held? b = if b = a then some i else c.held? b)
      (replacements : c'.replacements = c.replacements)
  /-- A call has dialed a connection. -/
  | make {a : Nat} (free : c.held? a = none) (pool : c'.pool = c.pool)
      (leases : ∀ b, c'.held? b = if b = a then some c.links.size else c.held? b)
      (replacements : c'.replacements = c.replacements)
  /-- A new connection goes to the pool. -/
  | stock (pool : c'.pool = c.pool.put c.links.size) (leases : ∀ b, c'.held? b = c.held? b)
      (replacements : c'.replacements ≤ c.replacements)
  /-- A call gives its connection back; if the pool is full, it is closed. -/
  | release {a i : Nat} (held : c.held? a = some i) (gave : GaveBack c c' i)
      (surplus : c.pool.hasRoom = false → ¬ c'.IsOpen i)
      (leases : ∀ b, c'.held? b = if b = a then none else c.held? b)
  /-- A call has its connection replaced. -/
  | drop {a i : Nat} (held : c.held? a = some i) (replaced : Replaced c c' i)
      (leases : ∀ b, c'.held? b = if b = a then none else c.held? b)

/-! ## Leases -/

section Leases

variable {c c' : Client} {a i : Nat} {call : Call} {stage : Stage}

theorem held?_of_there (there : c.calls[a]? = some call) : c.held? a = call.stage.link? := by
  rw [held?, there]
  rfl

theorem held?_same (calls : c'.calls = c.calls) (b : Nat) : c'.held? b = c.held? b := by
  rw [held?, held?, calls]

theorem held?_turn (there : c.calls[a]? = some call)
    (calls : c'.calls = c.calls.modify a ({ · with stage })) (b : Nat) :
    c'.held? b = if b = a then stage.link? else c.held? b := by
  rw [held?, calls, Array.getElem?_modify]
  by_cases same : b = a
  · rw [if_pos same, if_pos same.symm, same, there]
    rfl
  · rw [if_neg same, if_neg (Ne.symm same), held?]

theorem held?_stay (there : c.calls[a]? = some call)
    (calls : c'.calls = c.calls.modify a ({ · with stage }))
    (kept : stage.link? = call.stage.link?) (b : Nat) : c'.held? b = c.held? b := by
  rw [held?_turn there calls]
  split
  · next same => rw [same, kept, held?_of_there there]
  · rfl

end Leases

/-! ## What each step does -/

section Steps

variable {c c' : Client} {a i : Nat} {call : Call} {stage : Stage}

theorem Deal.of_modify {f : Link → Link}
    (deal : Deal { c with links := c.links.modify i f } c') : Deal c c' := by
  have size : (c.links.modify i f).size = c.links.size := Array.size_modify
  cases deal with
  | nothing pool leases replacements => exact .nothing pool leases replacements
  | take first front free pool leases replacements =>
    exact .take first front free pool leases replacements
  | make free pool leases replacements =>
    dsimp only at leases
    rw [size] at leases
    exact .make free pool leases replacements
  | stock pool leases replacements =>
    dsimp only at pool
    rw [size] at pool
    exact .stock pool leases replacements
  | release held gave surplus leases => exact .release held gave surplus leases
  | drop held replaced leases => exact .drop held replaced leases

theorem abandonStep_of_held (there : c.calls[a]? = some call) (held : call.stage.link? = some i) :
    c.abandonStep a = c.fail a i .abandoned := by
  obtain ⟨payment, requestedAt, stage⟩ := call
  cases stage with
  | leased j =>
    cases held
    rw [abandonStep, there]
  | reading j stage =>
    cases held
    rw [abandonStep, there]
  | _ => cases held

theorem not_isOpen_giveBack (full : c.pool.hasRoom = false) : ¬ (c.giveBack i).IsOpen i := by
  have closed : c.giveBack i = c.close i := by
    rw [giveBack, full]
    rfl
  rw [closed, isOpen_close]
  rintro ⟨-, other⟩
  exact other rfl

theorem deal_finish (there : c.calls[a]? = some call) (held : call.stage.link? = some i)
    (free : stage.link? = none) : Deal c ((c.giveBack i).setStage a stage) := by
  have calls : ((c.giveBack i).setStage a stage).calls = c.calls.modify a ({ · with stage }) := by
    rw [setStage_calls, giveBack_calls]
  refine .release ((held?_of_there there).trans held)
    ⟨giveBack_pool .., giveBack_replacements ..⟩ not_isOpen_giveBack fun b ↦ ?_
  rw [held?_turn there calls, free]

theorem Owned.deal_fail (owned : Owned c) (there : c.calls[a]? = some call)
    (held : call.stage.link? = some i) (free : stage.link? = none) :
    Deal c (c.fail a i stage) := by
  refine .drop ((held?_of_there there).trans held) (owned.replaced_fail there held stage free)
    fun b ↦ ?_
  rw [held?_turn there (fail_calls ..), free]

theorem Owned.deal_proceed (owned : Owned c) (there : c.calls[a]? = some call)
    (held : call.stage.link? = some i) (state : Exchange.State) :
    Deal c (c.proceed a i state) := by
  cases state with
  | reading stage =>
    exact .nothing rfl (held?_stay there (setStage_calls ..) held.symm) (Nat.le_refl _)
  | complete response => exact deal_finish there held rfl
  | failed fault => exact owned.deal_fail there held rfl

theorem deal_warm : Deal c (c.addLink.giveBack c.links.size) :=
  .stock (giveBack_pool ..) (held?_same (giveBack_calls ..))
    (Nat.le_of_eq (giveBack_replacements ..))

section Owned

variable (owned : Owned c)
include owned

theorem Owned.deal_lease : Deal c c.leaseStep := by
  rw [leaseStep]
  split
  · next a line i idle first front =>
    obtain ⟨call, deadline, there, waits⟩ := owned.waiting a (first ▸ List.mem_cons_self)
    have free : c.held? a = none := by
      rw [held?_of_there there, waits]
      rfl
    exact .take first front free rfl (held?_turn there (setStage_calls ..)) rfl
  · exact .nothing rfl (fun _ ↦ rfl) (Nat.le_refl _)

theorem Owned.deal_write (a : Nat) (failure : Option Transport.Fault) :
    Deal c (c.writeStep a failure) := by
  unfold writeStep
  split
  · next payment requestedAt i there =>
    split
    · exact owned.deal_fail there rfl rfl
    · have owned' := (owned.modify i fun l ↦
        { l with sent := c.terms.request ⟨payment, requestedAt, .leased i⟩ :: l.sent }).owned
      exact (owned'.deal_proceed there rfl _).of_modify
  · exact .nothing rfl (fun _ ↦ rfl) (Nat.le_refl _)

theorem Owned.deal_read (a : Nat) : Deal c (c.readStep a) := by
  unfold readStep
  split
  · next payment requestedAt i stage there =>
    split
    · next link here =>
      split
      · exact .nothing rfl (fun _ ↦ rfl) (Nat.le_refl _)
      · exact owned.deal_proceed there rfl _
      · next octets took =>
        have owned' := (owned.modify i fun l ↦
          { l with inbox := l.inbox.drop octets.length }).owned
        exact (owned'.deal_proceed there rfl _).of_modify
    · exact .nothing rfl (fun _ ↦ rfl) (Nat.le_refl _)
  · exact .nothing rfl (fun _ ↦ rfl) (Nat.le_refl _)

theorem Owned.deal_abandon (a : Nat) : Deal c (c.abandonStep a) := by
  rw [abandonStep]
  split
  · next there =>
    exact .nothing rfl (held?_stay there (setStage_calls ..) rfl) (Nat.le_refl _)
  · next there =>
    exact .nothing rfl (held?_stay there (setStage_calls ..) rfl) (Nat.le_refl _)
  · next there => exact owned.deal_fail there rfl rfl
  · next there => exact owned.deal_fail there rfl rfl
  · exact .nothing rfl (fun _ ↦ rfl) (Nat.le_refl _)

end Owned

theorem deal_expire (a : Nat) : Deal c (c.expireStep a) := by
  rw [expireStep]
  split
  · next there =>
    exact .nothing rfl (held?_stay there (setStage_calls ..) rfl) (Nat.le_refl _)
  · exact .nothing rfl (fun _ ↦ rfl) (Nat.le_refl _)

theorem deal_dial (a : Nat) (failure : Option Transport.Fault) : Deal c (c.dialStep a failure) := by
  unfold dialStep
  split
  · next there =>
    split
    · exact .make (held?_of_there there) rfl (held?_turn there (setStage_calls ..)) rfl
    · exact .nothing rfl (held?_stay there (setStage_calls ..) rfl) (Nat.le_refl _)
  · exact .nothing rfl (fun _ ↦ rfl) (Nat.le_refl _)

theorem deal_replace (made : Bool) : Deal c (c.replaceStep made) := by
  rw [replaceStep]
  split
  · exact .nothing rfl (fun _ ↦ rfl) (Nat.le_refl _)
  dsimp only
  split
  · exact .stock (giveBack_pool ..) (held?_same (giveBack_calls ..))
      (Nat.le_trans (Nat.le_of_eq (giveBack_replacements ..)) (Nat.sub_le _ _))
  · exact .nothing rfl (fun _ ↦ rfl) (Nat.sub_le _ _)

/-- **A step does one of these things with connections.** -/
theorem Owned.deal (owned : Owned c) (event : Event) : Deal c (c.step event) := by
  cases event with
  | call payment requestedAt now =>
    refine .nothing rfl (fun b ↦ ?_) (Nat.le_refl _)
    have calls : (c.step (.call payment requestedAt now)).calls
        = c.calls.push ⟨payment, requestedAt, .waiting (now + c.terms.patience)⟩ := rfl
    rw [held?, held?, calls, Array.getElem?_push]
    split
    · next new => rw [new, Array.getElem?_size]; rfl
    · rfl
  | warmed => exact deal_warm
  | lease => exact owned.deal_lease
  | expire b => exact deal_expire b
  | dialed b failure => exact deal_dial b failure
  | replaced made => exact deal_replace made
  | write b failure => exact owned.deal_write b failure
  | deliver link octets => exact .nothing rfl (fun _ ↦ rfl) (Nat.le_refl _)
  | hangUp link ending => exact .nothing rfl (fun _ ↦ rfl) (Nat.le_refl _)
  | read b => exact owned.deal_read b
  | abandon b => exact owned.deal_abandon b

end Steps

/-! ## Beginnings and ends -/

section Ends

variable {c c' : Client} {a i : Nat}

/-- What a call has, it has had, or it is first in line and takes what is first in the pool, or it
is a connection that is new. -/
theorem Deal.begins (deal : Deal c c') (held : c'.held? a = some i) :
    c.held? a = some i ∨ (a ∈ c.line ∧ c.pool.idle.head? = some i) ∨ i = c.links.size := by
  cases deal with
  | nothing pool leases replacements => exact .inl (leases a ▸ held)
  | stock pool leases replacements => exact .inl (leases a ▸ held)
  | take first front free pool leases replacements =>
    rw [leases] at held
    split at held
    · next mine =>
      rw [mine, first, front]
      exact .inr (.inl ⟨List.mem_cons_self, held⟩)
    · exact .inl held
  | make free pool leases replacements =>
    rw [leases] at held
    split at held
    · exact .inr (.inr (Option.some.inj held).symm)
    · exact .inl held
  | release held' gave surplus leases =>
    rw [leases] at held
    split at held
    · cases held
    · exact .inl held
  | drop held' replaced leases =>
    rw [leases] at held
    split at held
    · cases held
    · exact .inl held

/-- A call that no longer has its connection has given it back or has had it replaced. -/
theorem Deal.ends (deal : Deal c c') (held : c.held? a = some i) (isOver : c'.held? a ≠ some i) :
    (GaveBack c c' i ∧ (c.pool.hasRoom = false → ¬ c'.IsOpen i)) ∨ Replaced c c' i := by
  -- nobody leases or makes a connection who has one
  have busy {b j : Nat} (free : c.held? b = none)
      (leases : ∀ d, c'.held? d = if d = b then some j else c.held? d) : c'.held? a = some i := by
    have other : a ≠ b := fun same ↦ by
      rw [same, free] at held
      cases held
    rw [leases, if_neg other, held]
  cases deal with
  | nothing pool leases replacements => exact absurd ((leases a).trans held) isOver
  | stock pool leases replacements => exact absurd ((leases a).trans held) isOver
  | take first front free pool leases replacements => exact absurd (busy free leases) isOver
  | make free pool leases replacements => exact absurd (busy free leases) isOver
  | @release b j held' gave surplus leases =>
    rw [leases] at isOver
    split at isOver
    · next mine =>
      rw [mine, held'] at held
      cases held
      exact .inl ⟨gave, surplus⟩
    · exact absurd held isOver
  | @drop b j held' replaced leases =>
    rw [leases] at isOver
    split at isOver
    · next mine =>
      rw [mine, held'] at held
      cases held
      exact .inr replaced
    · exact absurd held isOver

/-- A connection is replaced only if a call drops it. -/
theorem Deal.replacements (deal : Deal c c') :
    c'.replacements ≤ c.replacements ∨ ∃ a i, c.held? a = some i ∧ Replaced c c' i := by
  cases deal with
  | nothing pool leases replacements => exact .inl replacements
  | stock pool leases replacements => exact .inl replacements
  | take first front free pool leases replacements => exact .inl (Nat.le_of_eq replacements)
  | make free pool leases replacements => exact .inl (Nat.le_of_eq replacements)
  | release held gave surplus leases => exact .inl (Nat.le_of_eq gave.2)
  | drop held replaced leases => exact .inr ⟨_, _, held, replaced⟩

end Ends

/-! ## Calls that have left the line -/

/-- A call has left the line, and what it has is none of the first `n` connections. -/
structure OnItsOwn (c : Client) (a n : Nat) : Prop where
  begun : ∃ call, c.calls[a]? = some call ∧ ∀ deadline, call.stage ≠ .waiting deadline
  own : ∀ i, c.held? a = some i → n ≤ i
  made : n ≤ c.links.size

section Alone

variable {c c' : Client} {a n : Nat}

theorem Turn.not_waiting {octets : Bytes} {stage stage' : Stage}
    (turn : Turn c c' octets stage stage') (out : ∀ deadline, stage ≠ .waiting deadline)
    (deadline : Ticks) : stage' ≠ .waiting deadline := by
  cases turn with
  | stay stage nothing => exact out deadline
  | _ => nofun

theorem OnItsOwn.same (alone : OnItsOwn c a n) (calls : c'.calls = c.calls)
    (links : c.links.size ≤ c'.links.size) : OnItsOwn c' a n where
  begun := calls ▸ alone.begun
  own i held := alone.own i (held?_same calls a ▸ held)
  made := Nat.le_trans alone.made links

/-- A call that has left the line takes nothing from the pool. -/
theorem OnItsOwn.of_deal (alone : OnItsOwn c a n) (owned : Owned c) (deal : Deal c c')
    (begun : ∃ call, c'.calls[a]? = some call ∧ ∀ deadline, call.stage ≠ .waiting deadline)
    (links : c.links.size ≤ c'.links.size) : OnItsOwn c' a n where
  begun := begun
  own i held := by
    rcases deal.begins held with had | ⟨first, -⟩ | rfl
    · exact alone.own i had
    · obtain ⟨call, there, out⟩ := alone.begun
      exact absurd first (owned.not_in_line there out)
    · exact alone.made
  made := Nat.le_trans alone.made links

/-- **It does not in any step.** -/
theorem OnItsOwn.step (alone : OnItsOwn c a n) (owned : Owned c) (event : Event) :
    OnItsOwn (c.step event) a n := by
  obtain ⟨call, there, out⟩ := alone.begun
  obtain ⟨stage, there', turn⟩ := turn_step owned there event
  exact alone.of_deal owned (owned.deal event) ⟨_, there', turn.not_waiting out⟩
    (owned.step event).links

end Alone

end PaymentRelay.Processor.Client

namespace PaymentRelay.Pool

/-- The pool is of this size, and it has no more connections than that, but room for one. -/
def Within (size : Nat) (p : Pool) : Prop := p.size = size ∧ p.idle.length ≤ max size 1

variable {size : Nat} {p : Pool}

theorem Within.put (within : p.Within size) (i : Nat) : (p.put i).Within size := by
  obtain ⟨rfl, most⟩ := within
  rw [Pool.put]
  split
  · next room =>
    have less : p.idle.length < p.capacity := of_decide_eq_true room
    refine ⟨rfl, ?_⟩
    rw [List.length_append]
    exact less
  · exact ⟨rfl, most⟩

theorem Within.tail (within : p.Within size) {i : Nat} {idle : List Nat}
    (front : p.idle = i :: idle) : ({ p with idle } : Pool).Within size := by
  obtain ⟨same, most⟩ := within
  rw [front, List.length_cons] at most
  exact ⟨same, Nat.le_of_succ_le most⟩

/-- **A step keeps within the bound of the pool.** -/
theorem Within.step {c c' : Processor.Client} (within : c.pool.Within size)
    (deal : c.Deal c') : c'.pool.Within size := by
  cases deal with
  | nothing pool leases replacements => exact pool ▸ within
  | take first front free pool leases replacements => exact pool ▸ within.tail front
  | make free pool leases replacements => exact pool ▸ within
  | stock pool leases replacements => exact pool ▸ within.put _
  | release held gave surplus leases => exact gave.1 ▸ within.put _
  | drop held replaced leases => exact replaced.1 ▸ within

end PaymentRelay.Pool
