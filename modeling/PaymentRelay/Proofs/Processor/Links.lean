import Mathlib.Data.List.Basic
import PaymentRelay.Processor.Client
import PaymentRelay.Proofs.Lists.Modify

/-!
# Who has which connection

A connection is with the pool, with one call, or with nobody. `kept` lists the connections that are
with the pool and those that are with a call, each as often as somebody has it, so that the whole
question of ownership is whether this list has duplicates.

The parts of which the steps are made are looked at one by one: what each leaves as it is, and that
none takes back what has been written to a connection or what has been heard of its end. `Later`
says the second.
-/

namespace PaymentRelay.Processor.Client

/-! ## What the parts leave as it is -/

section Parts

variable (c : Client) (a i : Nat) (stage : Stage)

@[simp] theorem setStage_calls :
    (c.setStage a stage).calls = c.calls.modify a ({ · with stage }) := rfl
@[simp] theorem setStage_links : (c.setStage a stage).links = c.links := rfl
@[simp] theorem setStage_pool : (c.setStage a stage).pool = c.pool := rfl
@[simp] theorem setStage_line : (c.setStage a stage).line = c.line := rfl

@[simp] theorem addLink_links : c.addLink.links = c.links.push .new := rfl
@[simp] theorem addLink_calls : c.addLink.calls = c.calls := rfl

@[simp] theorem fail_calls : (c.fail a i stage).calls = c.calls.modify a ({ · with stage }) := rfl
@[simp] theorem fail_links :
    (c.fail a i stage).links = c.links.modify i ({ · with isOpen := false }) := rfl

@[simp] theorem giveBack_calls : (c.giveBack i).calls = c.calls := by
  rw [giveBack]
  split <;> rfl

@[simp] theorem giveBack_line : (c.giveBack i).line = c.line := by
  rw [giveBack]
  split <;> rfl

theorem giveBack_cases :
    ((c.giveBack i).pool.idle = c.pool.idle ++ [i] ∧ (c.giveBack i).links = c.links) ∨
      ((c.giveBack i).pool = c.pool ∧
        (c.giveBack i).links = c.links.modify i ({ · with isOpen := false })) := by
  rw [giveBack]
  split
  · next room =>
    refine Or.inl ⟨?_, rfl⟩
    dsimp only
    rw [Pool.put, if_pos room]
  · exact Or.inr ⟨rfl, rfl⟩

end Parts

/-! ## Nothing is taken back -/

/-- The calls and connections of `c'` are those of `c` at a later time, and there may be more. -/
structure Later (c c' : Client) : Prop where
  terms : c'.terms = c.terms
  calls : ∀ (a : Nat) (call : Call), c.calls[a]? = some call →
    ∃ stage, c'.calls[a]? = some { call with stage }
  links : ∀ (i : Nat) (l : Link), c.links[i]? = some l →
    ∃ l', c'.links[i]? = some l' ∧ l.sent <:+ l'.sent ∧
      (l.ending.isSome = true → l'.ending.isSome = true)

namespace Later

theorem refl (c : Client) : Later c c where
  terms := rfl
  calls _ call there := ⟨call.stage, there⟩
  links _ l there := ⟨l, there, List.suffix_refl _, id⟩

theorem trans {c c' c'' : Client} (h : Later c c') (h' : Later c' c'') : Later c c'' where
  terms := h'.terms.trans h.terms
  calls a call there := by
    obtain ⟨stage, there⟩ := h.calls a call there
    obtain ⟨stage, there⟩ := h'.calls a _ there
    exact ⟨stage, there⟩
  links i l there := by
    obtain ⟨l', there, sent, ended⟩ := h.links i l there
    obtain ⟨l'', there, sent', ended'⟩ := h'.links i l' there
    exact ⟨l'', there, sent.trans sent', fun past ↦ ended' (ended past)⟩

theorem unmade {c c' : Client} (h : Later c c') {i : Nat} (none_ : c'.links[i]? = none) :
    c.links[i]? = none := by
  cases there : c.links[i]? with
  | none => rfl
  | some l =>
    obtain ⟨l', there', -⟩ := h.links i l there
    rw [none_] at there'
    cases there'

/-- A request stands where it stood, whatever else has been written. -/
theorem request {c c' : Client} (h : Later c c') {i k : Nat} {l : Link} {octets : Bytes}
    (here : c.links[i]? = some l) (there : l.sent.reverse[k]? = some octets) :
    ∃ l', c'.links[i]? = some l' ∧ l'.sent.reverse[k]? = some octets := by
  obtain ⟨l', here', ⟨more, sent⟩, -⟩ := h.links i l here
  refine ⟨l', here', ?_⟩
  obtain ⟨within, -⟩ := List.getElem?_eq_some_iff.mp there
  rw [← sent, List.reverse_append, List.getElem?_append_left within, there]

end Later

theorem later_of_links {c c' : Client} (terms : c'.terms = c.terms) (calls : c'.calls = c.calls)
    (links : ∀ (i : Nat) (l : Link), c.links[i]? = some l →
      ∃ l', c'.links[i]? = some l' ∧ l.sent <:+ l'.sent ∧
        (l.ending.isSome = true → l'.ending.isSome = true)) : Later c c' where
  terms := terms
  calls a call there := ⟨call.stage, by rw [calls, there]⟩
  links := links

theorem later_setStage (c : Client) (a : Nat) (stage : Stage) : Later c (c.setStage a stage) where
  terms := rfl
  calls b call there := by
    rw [setStage_calls, Array.getElem?_modify, there]
    split
    · exact ⟨stage, rfl⟩
    · exact ⟨call.stage, rfl⟩
  links i l there := ⟨l, there, List.suffix_refl _, id⟩

theorem later_modify (c : Client) (i : Nat) (f : Link → Link) (sent : ∀ l, l.sent <:+ (f l).sent)
    (ended : ∀ l, l.ending.isSome = true → (f l).ending.isSome = true) :
    Later c { c with links := c.links.modify i f } := by
  refine later_of_links rfl rfl fun j l there ↦ ?_
  dsimp only
  rw [Array.getElem?_modify, there]
  split
  · exact ⟨f l, rfl, sent l, ended l⟩
  · exact ⟨l, rfl, List.suffix_refl _, id⟩

theorem later_close (c : Client) (i : Nat) : Later c (c.close i) :=
  later_modify c i _ (fun _ ↦ List.suffix_refl _) fun _ ↦ id

theorem later_giveBack (c : Client) (i : Nat) : Later c (c.giveBack i) := by
  rw [giveBack]
  split
  · exact later_of_links rfl rfl fun _ l there ↦ ⟨l, there, List.suffix_refl _, id⟩
  · exact later_close c i

theorem later_addLink (c : Client) : Later c c.addLink := by
  refine later_of_links rfl rfl fun j l there ↦ ⟨l, ?_, List.suffix_refl _, id⟩
  obtain ⟨within, -⟩ := Array.getElem?_eq_some_iff.mp there
  rw [addLink_links, Array.getElem?_push, if_neg (Nat.ne_of_lt within), there]

theorem later_fail (c : Client) (a i : Nat) (stage : Stage) : Later c (c.fail a i stage) :=
  (later_close c i).trans <| (later_setStage _ a stage).trans <|
    later_of_links rfl rfl fun _ l there ↦ ⟨l, there, List.suffix_refl _, id⟩

theorem later_proceed (c : Client) (a i : Nat) (state : Exchange.State) :
    Later c (c.proceed a i state) := by
  cases state with
  | reading stage => exact later_setStage c a _
  | complete response => exact (later_giveBack c i).trans (later_setStage _ a _)
  | failed fault => exact later_fail c a i _

theorem later_queues (c : Client) (line : List Nat) (pool : Pool) :
    Later c { c with line, pool } :=
  later_of_links rfl rfl fun _ l there ↦ ⟨l, there, List.suffix_refl _, id⟩

theorem later_leaseStep (c : Client) : Later c c.leaseStep := by
  rw [leaseStep]
  split
  · next a line i idle _ _ =>
    exact (later_queues c line { c.pool with idle }).trans (later_setStage _ a _)
  · exact Later.refl c

theorem later_expireStep (c : Client) (a : Nat) : Later c (c.expireStep a) := by
  rw [expireStep]
  split
  · exact (later_queues c (c.line.erase a) c.pool).trans (later_setStage _ a _)
  · exact Later.refl c

theorem later_dialStep (c : Client) (a : Nat) (failure : Option Transport.Fault) :
    Later c (c.dialStep a failure) := by
  unfold dialStep
  split
  · split
    · exact (later_addLink c).trans (later_setStage _ a _)
    · exact later_setStage c a _
  · exact Later.refl c

theorem later_replaceStep (c : Client) (made : Bool) : Later c (c.replaceStep made) := by
  rw [replaceStep]
  split
  · exact Later.refl c
  · have fewer : Later c { c with replacements := c.replacements - 1 } :=
      later_of_links rfl rfl fun _ l there ↦ ⟨l, there, List.suffix_refl _, id⟩
    dsimp only
    split
    · exact fewer.trans ((later_addLink _).trans (later_giveBack _ _))
    · exact fewer

theorem later_readStep (c : Client) (a : Nat) : Later c (c.readStep a) := by
  rw [readStep]
  split
  · next i stage there =>
    split
    · next link here =>
      split
      · exact Later.refl c
      · exact later_proceed c a i _
      · next octets taken =>
        have drained := later_modify c i (fun l ↦ { l with inbox := l.inbox.drop octets.length })
          (fun _ ↦ List.suffix_refl _) fun _ ↦ id
        exact drained.trans (later_proceed _ a i _)
    · exact Later.refl c
  · exact Later.refl c

theorem later_writeStep (c : Client) (a : Nat) (failure : Option Transport.Fault) :
    Later c (c.writeStep a failure) := by
  rw [writeStep]
  split
  · next payment at_ i there =>
    split
    · exact later_fail c a i _
    · have written := later_modify c i
        (fun l ↦ { l with sent := c.terms.request ⟨payment, at_, .leased i⟩ :: l.sent })
        (fun _ ↦ List.suffix_cons _ _) fun _ ↦ id
      exact written.trans (later_proceed _ a i _)
  · exact Later.refl c

theorem later_abandonStep (c : Client) (a : Nat) : Later c (c.abandonStep a) := by
  rw [abandonStep]
  split
  · exact (later_queues c (c.line.erase a) c.pool).trans (later_setStage _ a _)
  · exact later_setStage c a _
  · exact later_fail c a _ _
  · exact later_fail c a _ _
  · exact Later.refl c

/-- **No step takes anything back.** -/
theorem later_step (c : Client) (event : Event) : Later c (c.step event) := by
  cases event with
  | call payment requestedAt now =>
    refine ⟨rfl, fun a call there ↦ ⟨call.stage, ?_⟩,
      fun i l there ↦ ⟨l, there, List.suffix_refl _, id⟩⟩
    obtain ⟨within, -⟩ := Array.getElem?_eq_some_iff.mp there
    exact (Array.getElem?_push.trans (if_neg (Nat.ne_of_lt within))).trans there
  | warmed => exact (later_addLink c).trans (later_giveBack _ _)
  | lease => exact later_leaseStep c
  | expire call => exact later_expireStep c call
  | dialed call failure => exact later_dialStep c call failure
  | replaced made => exact later_replaceStep c made
  | write call failure => exact later_writeStep c call failure
  | deliver link octets =>
    refine later_modify c link _ (fun l ↦ ?_) fun l past ↦ ?_
    · split <;> exact List.suffix_refl _
    · rw [if_pos past]
      exact past
  | hangUp link ending =>
    refine later_modify c link _ (fun l ↦ ?_) fun l past ↦ ?_
    · split <;> exact List.suffix_refl _
    · rw [if_pos past]
      exact past
  | read call => exact later_readStep c call
  | abandon call => exact later_abandonStep c call

/-! ## Nobody shares a connection -/

/-- The connections that are with the pool, and those that are with a call. -/
def kept (c : Client) : List Nat := c.pool.idle ++ c.calls.toList.filterMap (·.stage.link?)

/-- What is kept before and after a call goes over to another stage: what others keep is the
same. -/
theorem kept_turn {c c' : Client} {a : Nat} {call : Call} {stage : Stage}
    (there : c.calls[a]? = some call) (calls : c'.calls = c.calls.modify a ({ · with stage })) :
    ∃ others, c.kept.Perm (c.pool.idle ++ call.stage.link?.toList ++ others) ∧
      c'.kept.Perm (c'.pool.idle ++ stage.link?.toList ++ others) := by
  rw [← Array.getElem?_toList] at there
  obtain ⟨before, after, was, is_⟩ :=
    filterMap_modify there ({ · with stage }) (·.stage.link?)
  have front (idle own : List Nat) :
      (idle ++ (before ++ own ++ after)).Perm (idle ++ own ++ (before ++ after)) := by
    rw [List.append_assoc idle own]
    refine .append_left idle ?_
    rw [← List.append_assoc]
    exact .append_right after List.perm_append_comm
  refine ⟨before ++ after, ?_, ?_⟩
  · rw [kept, was]
    exact front _ _
  · rw [kept, calls, Array.toList_modify, is_]
    exact front _ _

/-- A call that goes over to another stage gives and takes only what it has or what is nobody's. -/
theorem nodup_kept_turn {c c' : Client} {a : Nat} {call : Call} {stage : Stage}
    (nodup : c.kept.Nodup) (there : c.calls[a]? = some call)
    (calls : c'.calls = c.calls.modify a ({ · with stage }))
    (own : (c'.pool.idle ++ stage.link?.toList).Nodup)
    (from_ : ∀ i ∈ c'.pool.idle ++ stage.link?.toList,
      i ∈ c.pool.idle ++ call.stage.link?.toList ∨ i ∉ c.kept) : c'.kept.Nodup := by
  obtain ⟨others, was, is_⟩ := kept_turn there calls
  obtain ⟨-, rest, apart⟩ := List.nodup_append.mp (was.nodup_iff.mp nodup)
  refine is_.nodup_iff.mpr (List.nodup_append.mpr ⟨own, rest, fun i mem j mem' same ↦ ?_⟩)
  subst same
  rcases from_ i mem with had | new
  · exact apart i had i mem' rfl
  · exact new (was.mem_iff.mpr (List.mem_append_right _ mem'))

theorem nodup_of_kept {c : Client} {a : Nat} {call : Call} (nodup : c.kept.Nodup)
    (there : c.calls[a]? = some call) : (c.pool.idle ++ call.stage.link?.toList).Nodup := by
  obtain ⟨others, was, -⟩ := kept_turn there (setStage_calls c a .abandoned)
  exact (List.nodup_append.mp (was.nodup_iff.mp nodup)).1

theorem not_mem_line {c : Client} {a : Nat} {call : Call}
    (waiting : ∀ a ∈ c.line, ∃ call deadline,
      c.calls[a]? = some call ∧ call.stage = .waiting deadline)
    (there : c.calls[a]? = some call) (stage : ∀ deadline, call.stage ≠ .waiting deadline) :
    a ∉ c.line := by
  intro mem
  obtain ⟨other, deadline, there', waits⟩ := waiting a mem
  rw [there] at there'
  cases there'
  exact stage deadline waits

theorem not_idle_of_held {c : Client} {a i : Nat} {call : Call} (nodup : c.kept.Nodup)
    (there : c.calls[a]? = some call) (held : call.stage.link? = some i) : i ∉ c.pool.idle := by
  intro idle
  have both := nodup_of_kept nodup there
  rw [held] at both
  exact (List.nodup_append.mp both).2.2 i idle i List.mem_cons_self rfl

theorem held_mem_kept {c : Client} {a i : Nat} {call : Call} (there : c.calls[a]? = some call)
    (held : call.stage.link? = some i) : i ∈ c.kept := by
  refine List.mem_append_right _ (List.mem_filterMap.mpr ⟨call, ?_, held⟩)
  exact Array.mem_toList_iff.mpr (Array.mem_of_getElem? there)

theorem eq_of_held {c : Client} {a b i : Nat} {call other : Call} (nodup : c.kept.Nodup)
    (there : c.calls[a]? = some call) (there' : c.calls[b]? = some other)
    (held : call.stage.link? = some i) (held' : other.stage.link? = some i) : a = b := by
  refine Decidable.byContradiction fun ne ↦ ?_
  -- if `a` gave the connection up, `b` would still have it, and so it would be listed twice now
  have still : (c.setStage a .abandoned).calls[b]? = some other := by
    rw [setStage_calls, Array.getElem?_modify, if_neg ne, there']
  obtain ⟨others, was, is_⟩ := kept_turn there (setStage_calls c a .abandoned)
  rw [held] at was
  obtain ⟨own, -, apart⟩ := List.nodup_append.mp (was.nodup_iff.mp nodup)
  rcases List.mem_append.mp (is_.mem_iff.mp (held_mem_kept still held')) with idle | mem
  · rcases List.mem_append.mp idle with idle | none
    · exact (List.nodup_append.mp own).2.2 i idle i List.mem_cons_self rfl
    · cases none
  · exact apart i (List.mem_append_right _ List.mem_cons_self) i mem rfl

end PaymentRelay.Processor.Client
