import PaymentRelay.Proofs.Http.CutOff
import PaymentRelay.Proofs.Processor.Postings
import PaymentRelay.Proofs.Processor.Turns

/-!
# A processor that hangs up in the middle of a response

Once a connection has ended, nothing more arrives on it, and the call that has it is the only one
that reads from it. If what it has read and what is left for it to read are less than a whole
response, then there are three things that can become of the call, whatever else happens: it still
reads what is left, or it has failed with the fault that the connection ended with, or its caller
has given it up. In none of these has the pool got the connection, and once the call is over nobody
ever has it again.

Each turn to read takes at least one octet off what is left. So a call that is not given up and that
has more turns than octets are left has failed.
-/

namespace PaymentRelay.Processor.Client

open Exchange (front)

/-! ## What a call's own steps alone change -/

/-- What is unread on a connection, and how the connection has ended, if it has. -/
def unread? (c : Client) (i : Nat) : Option (Bytes × Option Transport.Fault) :=
  (c.links[i]?).map fun l ↦ (l.inbox, l.ending)

/-- A call is where it was, and so is what can be read from its connection. -/
structure Spared (c c' : Client) (a i : Nat) : Prop where
  call : c'.calls[a]? = c.calls[a]?
  unread : c'.unread? i = c.unread? i

section Parts

variable (c : Client) {a b i j : Nat} (stage : Stage)

theorem Spared.refl : Spared c c a i := ⟨rfl, rfl⟩

theorem Spared.trans {c c' c'' : Client} (h : Spared c c' a i) (h' : Spared c' c'' a i) :
    Spared c c'' a i :=
  ⟨h'.call.trans h.call, h'.unread.trans h.unread⟩

theorem spared_setStage (ne : b ≠ a) : Spared c (c.setStage b stage) a i :=
  ⟨Array.getElem?_modify.trans (if_neg ne), rfl⟩

theorem spared_queues (line : List Nat) (pool : Pool) : Spared c { c with line, pool } a i :=
  ⟨rfl, rfl⟩

theorem spared_modify_of_ne (f : Link → Link) (ne : j ≠ i) :
    Spared c { c with links := c.links.modify j f } a i :=
  ⟨rfl, by rw [unread?, Array.getElem?_modify, if_neg ne, unread?]⟩

theorem spared_modify (j : Nat) (f : Link → Link)
    (same : ∀ l, c.links[i]? = some l → (f l).inbox = l.inbox ∧ (f l).ending = l.ending) :
    Spared c { c with links := c.links.modify j f } a i := by
  refine ⟨rfl, ?_⟩
  rw [unread?, unread?, Array.getElem?_modify]
  split
  · rcases here : c.links[i]? with _ | l
    · rfl
    · obtain ⟨inbox, ending⟩ := same l here
      simp only [Option.map_some, inbox, ending]
  · rfl

theorem spared_giveBack (j : Nat) : Spared c (c.giveBack j) a i := by
  rw [giveBack]
  split
  · exact ⟨rfl, rfl⟩
  · exact spared_modify c j _ fun _ _ ↦ ⟨rfl, rfl⟩

theorem spared_addLink (made : i < c.links.size) : Spared c c.addLink a i := by
  refine ⟨rfl, ?_⟩
  rw [unread?, addLink_links, Array.getElem?_push, if_neg (Nat.ne_of_lt made), unread?]

theorem spared_fail (j : Nat) (ne : b ≠ a) : Spared c (c.fail b j stage) a i :=
  (spared_modify c j ({ · with isOpen := false }) fun _ _ ↦ ⟨rfl, rfl⟩).trans <|
    (spared_setStage _ stage ne).trans ⟨rfl, rfl⟩

theorem spared_proceed (j : Nat) (ne : b ≠ a) (state : Exchange.State) :
    Spared c (c.proceed b j state) a i := by
  cases state with
  | reading stage => exact spared_setStage c _ ne
  | complete response => exact (spared_giveBack c j).trans (spared_setStage _ _ ne)
  | failed fault => exact spared_fail c _ j ne

end Parts

section Steps

variable {c : Client} {a i : Nat} {payment : Payment} {requestedAt : Millis}
  {stage : Exchange.Stage} {inbox : Bytes} {fault : Transport.Fault}

theorem Owned.made_of_held (owned : Owned c) {call : Call} (there : c.calls[a]? = some call)
    (held : call.stage.link? = some i) : i < c.links.size :=
  owned.made i (held_mem_kept there held)

/-- **A call that reads from a connection that has ended** is spared by all steps but its own. -/
theorem spared_step (owned : Owned c)
    (there : c.calls[a]? = some ⟨payment, requestedAt, .reading i stage⟩)
    (isOver : c.unread? i = some (inbox, some fault)) (event : Event) (read : event ≠ .read a)
    (abandon : event ≠ .abandon a) : Spared c (c.step event) a i := by
  have made := owned.made_of_held there rfl
  -- a call at another stage is another call
  have apart {b : Nat} {call : Call} (there' : c.calls[b]? = some call)
      (other : call.stage ≠ .reading i stage) : b ≠ a := by
    rintro rfl
    rw [there] at there'
    cases there'
    exact other rfl
  have ended {l : Link} (here : c.links[i]? = some l) : l.ending.isSome = true := by
    rw [unread?, here, Option.map_some, Option.some.injEq, Prod.mk.injEq] at isOver
    rw [isOver.2]
    rfl
  cases event with
  | call payment' requestedAt' now =>
    obtain ⟨within, -⟩ := Array.getElem?_eq_some_iff.mp there
    exact ⟨Array.getElem?_push.trans (if_neg (Nat.ne_of_lt within)), rfl⟩
  | warmed => exact (spared_addLink c made).trans (spared_giveBack _ _)
  | lease =>
    rw [step, leaseStep]
    split
    · next b line j idle first front =>
      obtain ⟨call, deadline, there', waits⟩ := owned.waiting b (first ▸ List.mem_cons_self)
      have ne : b ≠ a := apart there' fun same ↦ by cases waits.symm.trans same
      exact (spared_queues c line { c.pool with idle }).trans (spared_setStage _ _ ne)
    · exact .refl c
  | expire b =>
    rw [step, expireStep]
    split
    · next there' =>
      exact (spared_queues c (c.line.erase b) c.pool).trans
        (spared_setStage _ _ (apart there' fun same ↦ by cases same))
    · exact .refl c
  | dialed b failure =>
    rw [step]
    unfold dialStep
    split
    · next there' =>
      have ne := apart there' fun same ↦ by cases same
      split
      · exact (spared_addLink c made).trans (spared_setStage _ _ ne)
      · exact spared_setStage c _ ne
    · exact .refl c
  | replaced made' =>
    rw [step, replaceStep]
    split
    · exact .refl c
    let c' : Client := { c with replacements := c.replacements - 1 }
    have fewer : Spared c c' a i := ⟨rfl, rfl⟩
    dsimp only
    split
    · exact fewer.trans ((spared_addLink c' made).trans (spared_giveBack _ _))
    · exact fewer
  | write b failure =>
    rw [step]
    unfold writeStep
    split
    · next payment' requestedAt' j there' =>
      have ne := apart there' fun same ↦ by cases same
      split
      · exact spared_fail c _ j ne
      · have written := spared_modify (a := a) c j (fun l ↦
          { l with sent := c.terms.request ⟨payment', requestedAt', .leased j⟩ :: l.sent })
          fun l (_ : c.links[i]? = some l) ↦ ⟨rfl, rfl⟩
        exact written.trans (spared_proceed _ j ne _)
    · exact .refl c
  | deliver link octets =>
    refine spared_modify c link _ fun l here ↦ ?_
    rw [if_pos (ended here)]
    exact ⟨rfl, rfl⟩
  | hangUp link ending =>
    refine spared_modify c link _ fun l here ↦ ?_
    rw [if_pos (ended here)]
    exact ⟨rfl, rfl⟩
  | read b =>
    have ne : b ≠ a := fun same ↦ read (congrArg Event.read same)
    rw [step]
    rcases readStep_cases c b with ⟨same, -⟩ | ⟨payment', requestedAt', j, stage', there', reads⟩
    · rw [same]
      exact .refl c
    -- nobody else reads from this connection
    have other : j ≠ i := by
      rintro rfl
      exact ne (eq_of_held owned.kept there' there rfl rfl)
    rcases reads with ⟨-, fault', step⟩ | ⟨-, -, step⟩
    · rw [step]
      exact spared_fail c _ j ne
    · rw [step]
      exact (spared_modify_of_ne c _ other).trans (spared_proceed _ j ne _)
  | abandon b =>
    have ne : b ≠ a := fun same ↦ abandon (congrArg Event.abandon same)
    rw [step, abandonStep]
    split
    · exact (spared_queues c (c.line.erase b) c.pool).trans (spared_setStage _ _ ne)
    · exact spared_setStage c _ ne
    · exact spared_fail c _ _ ne
    · exact spared_fail c _ _ ne
    · exact .refl c

end Steps

/-! ## A connection that has ended too early -/

/-- A call reads from a connection that has ended like this: `left` octets of it are unread, and
with those that the call has read they are `octets`. -/
def Awaits (octets : Bytes) (fault : Transport.Fault) (c : Client) (a i left : Nat) : Prop :=
  ∃ payment requestedAt stage read inbox,
    c.calls[a]? = some ⟨payment, requestedAt, .reading i stage⟩ ∧
      stage.Holds responseTerms read ∧ c.unread? i = some (inbox, some fault) ∧
      read ++ inbox = octets ∧ inbox.length = left

/-- A call has ended at this stage, and nobody has its connection any more. -/
def Lost (c : Client) (a i : Nat) (stage : Stage) : Prop :=
  (∃ call, c.calls[a]? = some call ∧ call.stage = stage) ∧ i < c.links.size ∧ i ∉ c.kept

/-- What can have become of a call, after these steps, whose connection had ended like this when
`left` octets of it were unread. -/
inductive Fate (fault : Transport.Fault) (left : Nat) (events : List Event) (c : Client)
    (a i : Nat) : Prop where
  /-- It still reads what is left. -/
  | reads {call : Call} {stage : Exchange.Stage} (there : c.calls[a]? = some call)
      (reads : call.stage = .reading i stage) (idle : i ∉ c.pool.idle)
      (turns : events.count (.read a) ≤ left) (kept : .abandon a ∉ events)
  /-- It has failed. -/
  | failed (lost : Lost c a i (.finished (.refused (.ofTransport fault))))
  /-- It has been given up. -/
  | abandoned (given : .abandon a ∈ events) (lost : Lost c a i .abandoned)

section Ending

variable {c : Client} {a i left : Nat} {octets : Bytes} {fault : Transport.Fault} {stage : Stage}

theorem Owned.lost_fail (owned : Owned c) {call : Call} (there : c.calls[a]? = some call)
    (held : call.stage.link? = some i) (free : stage.link? = none) :
    Lost (c.fail a i stage) a i stage := by
  refine ⟨⟨{ call with stage }, ?_, rfl⟩, ?_,
    owned.free_of_drop there held (fail_calls ..) rfl free⟩
  · rw [fail_calls, Array.getElem?_modify, if_pos rfl, there, Option.map_some]
  · rw [fail_links, Array.size_modify]
    exact owned.made_of_held there held

/-- **A turn to read** takes something of what is left, or nothing is left and the call fails. -/
theorem Awaits.read (owned : Owned c) (short : front responseTerms.capacity octets = .unfinished)
    (awaits : Awaits octets fault c a i left) :
    (∃ left' < left, Awaits octets fault (c.step (.read a)) a i left') ∨
      Lost (c.step (.read a)) a i (.finished (.refused (.ofTransport fault))) := by
  obtain ⟨payment, requestedAt, stage, read, inbox, there, holds, isOver, cut, rfl⟩ := awaits
  obtain ⟨l, here, told⟩ := Option.map_eq_some_iff.mp isOver
  obtain ⟨rfl, ending⟩ := Prod.mk.inj told
  have pos : 0 < stage.room responseTerms :=
    Exchange.room_pos_of_holds (by simp [responseTerms]) holds
  by_cases nothing : l.inbox.take (stage.room responseTerms) = []
  · have step : c.step (.read a)
        = c.fail a i (.finished (.refused (.ofTransport fault))) := by
      rw [Client.step, Watched.readStep_nothing there here nothing, ending]
    exact .inr (step ▸ owned.lost_fail there rfl rfl)
  · have step := Watched.readStep_octets there here rfl nothing
    have fed := Exchange.holds_feed holds nothing (List.length_take_le _ _)
    have split := List.take_append_drop (stage.room responseTerms) l.inbox
    have fewer : (l.inbox.drop (stage.room responseTerms)).length < l.inbox.length := by
      have some_ : l.inbox ≠ [] := fun none_ ↦ nothing (by rw [none_, List.take_nil])
      rw [List.length_drop]
      exact Nat.sub_lt (List.length_pos_iff.mpr some_) pos
    have start : read ++ l.inbox.take (stage.room responseTerms) <+: octets := by
      rw [← cut]
      exact (List.prefix_append_right_inj read).mpr (List.take_prefix _ _)
    have still := Exchange.front_of_prefix short start
    refine .inl ⟨_, fewer, ?_⟩
    rcases state : Exchange.feed responseTerms stage (l.inbox.take (stage.room responseTerms))
      with stage' | response | fault'
    · rw [state] at step fed
      have there' : (c.readStep a).calls[a]?
          = some ⟨payment, requestedAt, .reading i stage'⟩ := by
        rw [step, Client.proceed, setStage_calls, Array.getElem?_modify, if_pos rfl]
        exact congrArg (Option.map _) there
      have isOver' : (c.readStep a).unread? i
          = some (l.inbox.drop (stage.room responseTerms), some fault) := by
        rw [step, Client.proceed, unread?, setStage_links, Watched.drained_links here split.symm,
          Option.map_some, ending]
      exact ⟨payment, requestedAt, stage', _, _, there', fed, isOver', by
        rw [List.append_assoc, split, cut], rfl⟩
    · rw [state] at fed
      obtain ⟨body, whole, -⟩ := fed
      rw [still] at whole
      cases whole
    · rw [state] at fed
      have failed : front _ _ = .failed fault' := fed
      rw [still] at failed
      cases failed

/-- **A step** lets the call read on, or it was its own last. -/
theorem Awaits.step (owned : Owned c) (short : front responseTerms.capacity octets = .unfinished)
    (awaits : Awaits octets fault c a i left) (event : Event) :
    (event ≠ .abandon a ∧ ∃ left', Awaits octets fault (c.step event) a i left' ∧
        left' + (if event = .read a then 1 else 0) ≤ left) ∨
      Lost (c.step event) a i (.finished (.refused (.ofTransport fault))) ∨
      event = .abandon a ∧ Lost (c.step event) a i .abandoned := by
  by_cases read : event = .read a
  · subst read
    rcases awaits.read owned short with ⟨left', fewer, awaits⟩ | lost
    · exact .inl ⟨nofun, left', awaits, by rw [if_pos rfl]; exact fewer⟩
    · exact .inr (.inl lost)
  obtain ⟨payment, requestedAt, stage, read_, inbox, there, holds, isOver, cut, length⟩ := awaits
  by_cases abandon : event = .abandon a
  · subst abandon
    have step : c.step (.abandon a) = c.fail a i .abandoned := by
      rw [Client.step, abandonStep, there]
    exact .inr (.inr ⟨rfl, step ▸ owned.lost_fail there rfl rfl⟩)
  · obtain ⟨call, unread⟩ := spared_step owned there isOver event read abandon
    refine .inl ⟨abandon, left, ⟨payment, requestedAt, stage, read_, inbox, ?_, holds, ?_, cut,
      length⟩, ?_⟩
    · rw [call, there]
    · rw [unread, isOver]
    · rw [if_neg read]
      exact Nat.le_refl _

theorem Lost.step {w : Watched} (filed : w.Filed) (owned : Owned w.client)
    (isOver : stage.isOver = true) (lost : Lost w.client a i stage) (event : Event) :
    Lost (w.client.step event) a i stage := by
  obtain ⟨⟨call, there, rfl⟩, made, free⟩ := lost
  refine ⟨⟨call, (filed.stride event).calls_of_isOver there isOver, rfl⟩, ?_,
    owned.not_kept_run made free [event]⟩
  exact Nat.lt_of_lt_of_le made (owned.step event).links

theorem Lost.run {w : Watched} (filed : w.Filed) (owned : Owned w.client)
    (isOver : stage.isOver = true) (lost : Lost w.client a i stage) (events : List Event) :
    Lost (w.client.run events) a i stage := by
  induction events generalizing w with
  | nil => exact lost
  | cons event events ih =>
    have later : Owned (w.step event).client := (owned.step event).owned
    exact ih (filed.step event) later (lost.step filed owned isOver event)

/-- **Nothing else can become of the call.** -/
theorem Awaits.run {w : Watched} (filed : w.Filed) (owned : Owned w.client)
    (short : front responseTerms.capacity octets = .unfinished)
    (awaits : Awaits octets fault w.client a i left) (events : List Event) :
    Fate fault left events (w.client.run events) a i := by
  induction events generalizing w left with
  | nil =>
    obtain ⟨payment, requestedAt, stage, read, inbox, there, -⟩ := awaits
    exact .reads there rfl (not_idle_of_held owned.kept there rfl) (Nat.zero_le _) List.not_mem_nil
  | cons event events ih =>
    have filed' := filed.step event
    have owned' : Owned (w.step event).client := (owned.step event).owned
    rcases awaits.step owned short event with ⟨kept, left', awaits, fewer⟩ | lost | ⟨given, lost⟩
    · have rest : Fate fault left' events (w.client.run (event :: events)) a i :=
        ih filed' owned' awaits
      cases rest with
      | reads there reads idle turns kept' =>
        refine .reads there reads idle ?_ ?_
        · rw [List.count_cons]
          simp only [beq_iff_eq]
          omega
        · rintro (_ | ⟨_, later⟩)
          · exact kept rfl
          · exact kept' later
      | failed lost => exact .failed lost
      | abandoned given lost => exact .abandoned (List.mem_cons_of_mem _ given) lost
    · have lost : Lost (w.step event).client a i _ := lost
      exact .failed (lost.run filed' owned' rfl events)
    · have lost : Lost (w.step event).client a i _ := lost
      refine .abandoned ?_ (lost.run filed' owned' rfl events)
      rw [given]
      exact List.mem_cons_self

theorem filed_run (terms : Terms) (size : Nat) (events : List Event) :
    ((Watched.new terms size).run events).Filed := by
  have run {w : Watched} (filed : w.Filed) : (w.run events).Filed := by
    induction events generalizing w with
    | nil => exact filed
    | cons event events ih => exact ih (filed.step event)
  exact run (.new terms size)

/-- **What becomes of a call whose connection has ended too early**, whatever else happens. -/
theorem fate_of_hangUp (terms : Terms) (size : Nat) (before : List Event) {call : Call}
    {stage : Exchange.Stage} {link : Link}
    (there : ((new terms size).run before).calls[a]? = some call)
    (reads : call.stage = .reading i stage)
    (here : ((new terms size).run before).links[i]? = some link) (ended : link.ending = some fault)
    (short : front responseTerms.capacity ((new terms size).heard a before ++ link.inbox)
      = .unfinished) (events : List Event) :
    Fate fault link.inbox.length events (((new terms size).run before).run events) a i := by
  have client : ((Watched.new terms size).run before).client = (new terms size).run before :=
    Watched.run_client _ before
  have owned := ((owned_new terms size).run before).owned
  have fits := fits_heard terms size before there
  obtain ⟨payment, requestedAt, stage_⟩ := call
  subst reads
  have awaits : Awaits _ fault ((new terms size).run before) a i link.inbox.length :=
    ⟨payment, requestedAt, stage, _, link.inbox, there, fits, by
      rw [unread?, here, Option.map_some, ended], rfl, rfl⟩
  rw [← client] at owned awaits ⊢
  exact awaits.run (filed_run terms size before) owned short events

/-- A call that is over never gets more out of it than the fault, and the pool never gets the
connection. -/
theorem Fate.denied {events : List Event} (fate : Fate fault left events c a i)
    (network : fault.isMalformed = false) :
    i ∉ c.pool.idle ∧ ∃ call, c.calls[a]? = some call ∧
      (∀ outcome, call.stage = .finished outcome → outcome = .refused (.transport fault)) ∧
      (call.stage.isOver = true → i ∉ c.kept) ∧
      (.abandon a ∉ events → left < events.count (.read a) →
        call.stage = .finished (.refused (.transport fault))) := by
  have told : ProcessorFault.ofTransport fault = .transport fault := by
    rw [ProcessorFault.ofTransport, network, if_neg Bool.false_ne_true]
  cases fate with
  | @reads call stage there reads idle turns kept =>
    refine ⟨idle, call, there, ?_, ?_, fun _ more ↦ absurd turns (Nat.not_le_of_lt more)⟩
    · intro outcome isOver
      rw [reads] at isOver
      cases isOver
    · intro isOver
      rw [reads] at isOver
      cases isOver
  | failed lost =>
    obtain ⟨⟨call, there, stage⟩, made, free⟩ := lost
    rw [told] at stage
    refine ⟨fun idle ↦ free (List.mem_append_left _ idle), call, there, ?_, fun _ ↦ free,
      fun _ _ ↦ stage⟩
    intro outcome isOver
    rw [stage] at isOver
    exact (Stage.finished.inj isOver).symm
  | abandoned given lost =>
    obtain ⟨⟨call, there, stage⟩, made, free⟩ := lost
    refine ⟨fun idle ↦ free (List.mem_append_left _ idle), call, there, ?_, fun _ ↦ free,
      fun kept ↦ absurd given kept⟩
    intro outcome isOver
    rw [stage] at isOver
    cases isOver

end Ending

end PaymentRelay.Processor.Client
