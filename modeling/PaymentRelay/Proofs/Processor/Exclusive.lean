import PaymentRelay.Proofs.Processor.Turns

/-!
# Exactly the connections that somebody has are open

Beside the pool and the calls there may be others who have connections: whoever has dialed one and
has not handed it over yet. `Sole` says of the pool, the calls and these others together that nobody
shares a connection, and that exactly the connections that somebody has are open.

There are only a few moves. A connection passes from one to another, a new one is made, or one is
closed by whoever has it. Each step of the client is put together from these, with the others as the
place where a connection is in between.
-/

namespace PaymentRelay.Processor.Client

/-- A connection has been made and this side has not closed it. -/
def IsOpen (c : Client) (i : Nat) : Prop := ∃ l, c.links[i]? = some l ∧ l.isOpen = true

/-- Nobody shares a connection with the pool, the calls or the others, and exactly those that
somebody has are open. -/
structure Sole (c : Client) (others : List Nat) : Prop where
  nodup : (c.kept ++ others).Nodup
  isOpen : ∀ i, c.IsOpen i ↔ i ∈ c.kept ++ others

/-! ## What is open -/

section Open

variable (c : Client) (i j : Nat)

theorem isOpen_of_links {c c' : Client} (links : c'.links = c.links) (i : Nat) :
    c'.IsOpen i ↔ c.IsOpen i := by
  rw [IsOpen, IsOpen, links]

theorem isOpen_modify (f : Link → Link) (same : ∀ l, (f l).isOpen = l.isOpen) :
    ({ c with links := c.links.modify j f } : Client).IsOpen i ↔ c.IsOpen i := by
  simp only [IsOpen, Array.getElem?_modify]
  split <;> simp [same]

theorem isOpen_close : (c.close j).IsOpen i ↔ c.IsOpen i ∧ i ≠ j := by
  simp only [IsOpen, close, Array.getElem?_modify]
  by_cases here : j = i
  · simp [here]
  · simp [here, Ne.symm here]

theorem not_isOpen_size : ¬ c.IsOpen c.links.size := by
  rintro ⟨l, here, -⟩
  rw [Array.getElem?_size] at here
  cases here

theorem isOpen_addLink : c.addLink.IsOpen i ↔ c.IsOpen i ∨ i = c.links.size := by
  rw [IsOpen, addLink_links, Array.getElem?_push]
  by_cases new : i = c.links.size
  · simp [new, Link.new]
  · simp [new, IsOpen]

theorem IsOpen.lt {c : Client} {i : Nat} (h : c.IsOpen i) : i < c.links.size := by
  obtain ⟨l, here, -⟩ := h
  exact (Array.getElem?_eq_some_iff.mp here).1

/-- Nothing is opened but connections that are new, and no connection is forgotten. -/
structure Onward (c c' : Client) : Prop where
  opened : ∀ i, c'.IsOpen i → c.IsOpen i ∨ c.links.size ≤ i
  links : c.links.size ≤ c'.links.size

theorem Onward.refl : Onward c c := ⟨fun _ ↦ .inl, Nat.le_refl _⟩

theorem Onward.trans {c c' c'' : Client} (h : Onward c c') (h' : Onward c' c'') : Onward c c'' where
  opened i open_ := by
    rcases h'.opened i open_ with before | new
    · exact h.opened i before
    · exact .inr (Nat.le_trans h.links new)
  links := Nat.le_trans h.links h'.links

theorem Onward.closed {c c' : Client} {i : Nat} (onward : Onward c c') (made : i < c.links.size)
    (closed : ¬ c.IsOpen i) : ¬ c'.IsOpen i := by
  intro open_
  rcases onward.opened i open_ with before | new
  · exact closed before
  · exact Nat.not_le_of_lt made new

theorem onward_close : Onward c (c.close j) where
  opened i open_ := .inl ((isOpen_close c i j).mp open_).1
  links := Nat.le_of_eq Array.size_modify.symm

theorem closeAll_rest (closing : List Nat) :
    (closing.foldl close c).calls = c.calls ∧
      (closing.foldl close c).line = c.line ∧
      (closing.foldl close c).pool = c.pool ∧
      (closing.foldl close c).replacements = c.replacements := by
  induction closing generalizing c with
  | nil => exact ⟨rfl, rfl, rfl, rfl⟩
  | cons i closing ih => exact ih (c.close i)

theorem onward_closeAll (closing : List Nat) : Onward c (closing.foldl close c) := by
  induction closing generalizing c with
  | nil => exact .refl c
  | cons i closing ih => exact (onward_close c i).trans (ih (c.close i))

theorem onward_giveBack : Onward c (c.giveBack j) := by
  rw [giveBack]
  split
  · exact ⟨fun i open_ ↦ .inl open_, Nat.le_refl _⟩
  · exact onward_close c j

theorem onward_addLink : Onward c c.addLink where
  opened i open_ := ((isOpen_addLink c i).mp open_).imp_right fun new ↦ Nat.le_of_eq new.symm
  links := by simp

end Open

/-! ## Moves -/

section Moves

variable {c c' : Client} {a i : Nat} {others others' : List Nat} {call : Call}

theorem Sole.of_perm (sole : Sole c others) (isOpen : ∀ i, c'.IsOpen i ↔ c.IsOpen i)
    (perm : (c'.kept ++ others').Perm (c.kept ++ others)) : Sole c' others' where
  nodup := perm.nodup_iff.mpr sole.nodup
  isOpen i := (isOpen i).trans ((sole.isOpen i).trans perm.mem_iff.symm)

theorem Sole.pass (sole : Sole c others) (perm : others'.Perm others) : Sole c others' :=
  sole.of_perm (fun _ ↦ .rfl) (.append_left c.kept perm)

theorem Sole.same (sole : Sole c others) (calls : c'.calls = c.calls)
    (idle : c'.pool.idle = c.pool.idle) (isOpen : ∀ i, c'.IsOpen i ↔ c.IsOpen i) :
    Sole c' others := by
  refine sole.of_perm isOpen (.of_eq ?_)
  rw [kept, kept, calls, idle]

theorem Sole.pool (sole : Sole c others) (calls : c'.calls = c.calls) (links : c'.links = c.links)
    (perm : (c'.pool.idle ++ others').Perm (c.pool.idle ++ others)) : Sole c' others' := by
  refine sole.of_perm (isOpen_of_links links) ?_
  have apart (idle held others : List Nat) :
      (idle ++ held ++ others).Perm (idle ++ others ++ held) := by
    rw [List.append_assoc, List.append_assoc]
    exact .append_left idle List.perm_append_comm
  rw [kept, kept, calls]
  exact (apart _ _ _).trans ((perm.append_right _).trans (apart _ _ _).symm)

theorem Sole.turn {stage : Stage} (sole : Sole c others) (there : c.calls[a]? = some call)
    (perm : (stage.link?.toList ++ others').Perm (call.stage.link?.toList ++ others)) :
    Sole (c.setStage a stage) others' := by
  obtain ⟨rest, was, is_⟩ := kept_turn there (setStage_calls c a stage)
  refine sole.of_perm (isOpen_of_links rfl) ?_
  have apart (idle own rest others : List Nat) :
      (idle ++ own ++ rest ++ others).Perm (idle ++ rest ++ (own ++ others)) := by
    simp only [List.append_assoc]
    refine .append_left idle ?_
    rw [← List.append_assoc, ← List.append_assoc]
    exact .append_right others List.perm_append_comm
  refine (is_.append_right others').trans (.trans ?_ (was.append_right others).symm)
  exact (apart _ _ _ _).trans ((perm.append_left _).trans (apart _ _ _ _).symm)

theorem Sole.addLink (sole : Sole c others) : Sole c.addLink (c.links.size :: others) := by
  have kept_ : c.addLink.kept = c.kept := rfl
  have new : c.links.size ∉ c.kept ++ others := fun mem ↦
    not_isOpen_size c ((sole.isOpen _).mpr mem)
  have front : (c.kept ++ c.links.size :: others).Perm (c.links.size :: (c.kept ++ others)) :=
    List.perm_middle
  constructor
  · rw [kept_]
    exact front.nodup_iff.mpr (List.nodup_cons.mpr ⟨new, sole.nodup⟩)
  · intro i
    rw [kept_, front.mem_iff, List.mem_cons, isOpen_addLink, sole.isOpen i, or_comm]

theorem Sole.close (sole : Sole c (i :: others)) : Sole (c.close i) others := by
  have kept_ : (c.close i).kept = c.kept := rfl
  have front : (c.kept ++ i :: others).Perm (i :: (c.kept ++ others)) := List.perm_middle
  obtain ⟨gone, nodup⟩ := List.nodup_cons.mp (front.nodup_iff.mp sole.nodup)
  constructor
  · rw [kept_]
    exact nodup
  · intro j
    rw [isOpen_close, sole.isOpen j, front.mem_iff, List.mem_cons, kept_]
    constructor
    · rintro ⟨mem, other⟩
      exact mem.resolve_left other
    · intro mem
      exact ⟨.inr mem, fun same ↦ gone (same ▸ mem)⟩

theorem Sole.closeAll {closing : List Nat} (sole : Sole c (closing ++ others)) :
    Sole (closing.foldl Client.close c) others := by
  induction closing generalizing c with
  | nil => exact sole
  | cons i closing ih => exact ih sole.close

theorem Sole.giveBack (sole : Sole c (i :: others)) : Sole (c.giveBack i) others := by
  rw [Client.giveBack]
  split
  · next room =>
    refine sole.pool rfl rfl ?_
    dsimp only
    rw [Pool.put, if_pos room, List.append_assoc]
    exact .refl _
  · exact sole.close

theorem Sole.fail {stage : Stage} (sole : Sole c others) (there : c.calls[a]? = some call)
    (held : call.stage.link? = some i) (free : stage.link? = none) :
    Sole (c.fail a i stage) others := by
  have dropped : Sole (c.setStage a stage) (i :: others) :=
    sole.turn there (by rw [held, free]; exact .refl _)
  exact dropped.close.same rfl rfl (isOpen_of_links rfl)

theorem Sole.finish {stage : Stage} (sole : Sole c others) (there : c.calls[a]? = some call)
    (held : call.stage.link? = some i) (free : stage.link? = none) :
    Sole ((c.giveBack i).setStage a stage) others := by
  have dropped : Sole (c.setStage a stage) (i :: others) :=
    sole.turn there (by rw [held, free]; exact .refl _)
  have same : (c.setStage a stage).giveBack i = (c.giveBack i).setStage a stage := by
    rw [Client.giveBack, Client.giveBack, setStage_pool]
    split <;> rfl
  exact same ▸ dropped.giveBack

theorem Sole.grant {stage : Stage} (sole : Sole c (i :: others)) (there : c.calls[a]? = some call)
    (none_ : call.stage.link? = none) (holds : stage.link? = some i) :
    Sole (c.setStage a stage) others :=
  sole.turn there (by rw [holds, none_]; exact .refl _)

theorem Sole.stay {stage : Stage} (sole : Sole c others) (there : c.calls[a]? = some call)
    (same : stage.link? = call.stage.link?) : Sole (c.setStage a stage) others :=
  sole.turn there (by rw [same])

theorem Sole.proceed (sole : Sole c others) (there : c.calls[a]? = some call)
    (held : call.stage.link? = some i) (state : Exchange.State) :
    Sole (c.proceed a i state) others := by
  cases state with
  | reading stage => exact sole.stay there held.symm
  | complete response => exact sole.finish there held rfl
  | failed fault => exact sole.fail there held rfl

theorem Sole.modify (sole : Sole c others) (j : Nat) (f : Link → Link)
    (same : ∀ l, (f l).isOpen = l.isOpen) :
    Sole { c with links := c.links.modify j f } others :=
  sole.same rfl rfl fun i ↦ isOpen_modify c i j f same

end Moves

/-! ## Steps -/

section Steps

variable {c : Client} {others : List Nat} (sole : Sole c others)
include sole

theorem Sole.lease (owned : Owned c) : Sole c.leaseStep others := by
  rw [leaseStep]
  split
  · next a line i idle first front =>
    obtain ⟨call, deadline, there, waits⟩ := owned.waiting a (first ▸ List.mem_cons_self)
    let c' : Client := { c with line, pool := { c.pool with idle } }
    have taken : Sole c' (i :: others) := by
      refine sole.pool rfl rfl ?_
      rw [front]
      exact List.perm_middle
    exact taken.grant there (by rw [waits]; rfl) rfl
  · exact sole

theorem Sole.expire (a : Nat) : Sole (c.expireStep a) others := by
  rw [expireStep]
  split
  · next payment requestedAt deadline there =>
    let c' : Client := { c with line := c.line.erase a }
    have left : Sole c' others := sole.same rfl rfl (isOpen_of_links rfl)
    exact left.stay there rfl
  · exact sole

theorem Sole.dial (a : Nat) (failure : Option Transport.Fault) :
    Sole (c.dialStep a failure) others := by
  unfold dialStep
  split
  · next payment requestedAt there =>
    split
    · exact sole.addLink.grant there rfl rfl
    · exact sole.stay there rfl
  · exact sole

theorem Sole.replace (made : Bool) : Sole (c.replaceStep made) others := by
  rw [replaceStep]
  split
  · exact sole
  have fewer : Sole { c with replacements := c.replacements - 1 } others :=
    sole.same rfl rfl (isOpen_of_links rfl)
  dsimp only
  split
  · exact fewer.addLink.giveBack
  · exact fewer

theorem Sole.write (a : Nat) (failure : Option Transport.Fault) :
    Sole (c.writeStep a failure) others := by
  unfold writeStep
  split
  · next payment requestedAt i there =>
    split
    · exact sole.fail there rfl rfl
    · have written := sole.modify i
        (fun l ↦ { l with sent := c.terms.request ⟨payment, requestedAt, .leased i⟩ :: l.sent })
        fun _ ↦ rfl
      exact written.proceed there rfl _
  · exact sole

theorem Sole.read (a : Nat) : Sole (c.readStep a) others := by
  unfold readStep
  split
  · next payment requestedAt i stage there =>
    split
    · next link here =>
      split
      · exact sole
      · exact sole.proceed there rfl _
      · next octets took =>
        have drained := sole.modify i (fun l ↦ { l with inbox := l.inbox.drop octets.length })
          fun _ ↦ rfl
        exact drained.proceed there rfl _
    · exact sole
  · exact sole

theorem Sole.abandon (a : Nat) : Sole (c.abandonStep a) others := by
  rw [abandonStep]
  split
  · next payment requestedAt deadline there =>
    let c' : Client := { c with line := c.line.erase a }
    have left : Sole c' others := sole.same rfl rfl (isOpen_of_links rfl)
    exact left.stay there rfl
  · next payment requestedAt there => exact sole.stay there rfl
  · next payment requestedAt i there => exact sole.fail there rfl rfl
  · next payment requestedAt i stage there => exact sole.fail there rfl rfl
  · exact sole

/-- **No step lets a connection be shared, or lost while it is open.** -/
theorem Sole.step (owned : Owned c) (event : Event) : Sole (c.step event) others := by
  cases event with
  | call payment requestedAt now =>
    refine sole.of_perm (isOpen_of_links rfl) (.append_right others (.of_eq ?_))
    have calls : (c.step (.call payment requestedAt now)).calls
        = c.calls.push ⟨payment, requestedAt, .waiting (now + c.terms.patience)⟩ := rfl
    rw [kept, calls, Array.toList_push, List.filterMap_append]
    exact congrArg (c.pool.idle ++ ·) (List.append_nil _)
  | warmed => exact sole.addLink.giveBack
  | lease => exact sole.lease owned
  | expire a => exact sole.expire a
  | dialed a failure => exact sole.dial a failure
  | replaced made => exact sole.replace made
  | write a failure => exact sole.write a failure
  | deliver link octets =>
    refine sole.modify link _ fun l ↦ ?_
    split <;> rfl
  | hangUp link ending =>
    refine sole.modify link _ fun l ↦ ?_
    split <;> rfl
  | read a => exact sole.read a
  | abandon a => exact sole.abandon a

end Steps

/-- Who hands connections over opens none. -/
theorem Handover.onward {c c' : Client} {others : List Nat} (handover : Handover c c')
    (sole : Sole c others) (sole' : Sole c' others) : Onward c c' where
  opened i open_ := by
    rcases List.mem_append.mp ((sole'.isOpen i).mp open_) with mem | mem
    · exact (handover.kept i mem).imp_left fun had ↦
        (sole.isOpen i).mpr (List.mem_append_left _ had)
    · exact .inl ((sole.isOpen i).mpr (List.mem_append_right _ mem))
  links := handover.links

/-- Where the calls are the same, ownership follows from who has what. -/
theorem Owned.of_sole {c c' : Client} {others : List Nat} (owned : Owned c) (sole : Sole c' others)
    (calls : c'.calls = c.calls) (line : c'.line = c.line) : Owned c' where
  kept := (List.nodup_append.mp sole.nodup).1
  made i mem := ((sole.isOpen i).mpr (List.mem_append_left _ mem)).lt
  line := line ▸ owned.line
  waiting a mem := calls ▸ owned.waiting a (line ▸ mem)

end PaymentRelay.Processor.Client
