import PaymentRelay.Proofs.Processor.Links

/-!
# Connections are never shared, and never come back

Whatever a processor sends and in whatever order things happen, a connection is with the pool, with
one call, or with nobody. A step hands connections over from one to the other, and only connections
that it has just made are new among those that somebody has. So a connection that nobody has is
never used again.
-/

namespace PaymentRelay.Processor.Client

/-- Nobody shares a connection, each was made, and only waiting calls are in line, each once. -/
structure Owned (c : Client) : Prop where
  kept : c.kept.Nodup
  made : ∀ i ∈ c.kept, i < c.links.size
  line : c.line.Nodup
  waiting : ∀ a ∈ c.line, ∃ call deadline, c.calls[a]? = some call ∧ call.stage = .waiting deadline

/-- Connections have been handed over, and more may have been made. -/
structure Handover (c c' : Client) : Prop where
  owned : Owned c'
  kept : ∀ i ∈ c'.kept, i ∈ c.kept ∨ c.links.size ≤ i
  links : c.links.size ≤ c'.links.size

variable {c c' : Client} {a i : Nat} {call : Call} {stage : Stage}

theorem Handover.trans {c'' : Client} (h : Handover c c') (h' : Handover c' c'') :
    Handover c c'' where
  owned := h'.owned
  kept i mem := by
    rcases h'.kept i mem with before | new
    · exact h.kept i before
    · exact .inr (Nat.le_trans h.links new)
  links := Nat.le_trans h.links h'.links

theorem Owned.same (owned : Owned c) (calls : c'.calls = c.calls)
    (idle : c'.pool.idle = c.pool.idle)
    (line : c'.line = c.line) (links : c.links.size ≤ c'.links.size) : Handover c c' := by
  have had : c'.kept = c.kept := by rw [Client.kept, Client.kept, calls, idle]
  refine ⟨⟨had ▸ owned.kept, ?_, line ▸ owned.line, ?_⟩, fun i mem ↦ .inl (had ▸ mem), links⟩
  · intro i mem
    exact Nat.lt_of_lt_of_le (owned.made i (had ▸ mem)) links
  · intro a mem
    rw [calls]
    exact owned.waiting a (line ▸ mem)

theorem Owned.refl (owned : Owned c) : Handover c c := owned.same rfl rfl rfl (Nat.le_refl _)

/-- **A call goes over to another stage** and takes what it or the pool had, or what is new. -/
theorem Owned.turn (owned : Owned c) (there : c.calls[a]? = some call)
    (calls : c'.calls = c.calls.modify a ({ · with stage })) (line : c'.line.Sublist c.line)
    (gone : a ∉ c'.line) (links : c.links.size ≤ c'.links.size)
    (own : (c'.pool.idle ++ stage.link?.toList).Nodup)
    (from_ : ∀ i ∈ c'.pool.idle ++ stage.link?.toList,
      i ∈ c.pool.idle ++ call.stage.link?.toList ∨ (c.links.size ≤ i ∧ i < c'.links.size)) :
    Handover c c' := by
  obtain ⟨others, was, is_⟩ := kept_turn there calls
  -- connections are numbered as they are made, so nobody has a new one yet
  have fresh : ∀ i, c.links.size ≤ i → i ∉ c.kept :=
    fun i new mem ↦ Nat.not_lt_of_le new (owned.made i mem)
  have all : ∀ i ∈ c'.kept, i ∈ c.kept ∨ (c.links.size ≤ i ∧ i < c'.links.size) := by
    intro i mem
    rcases List.mem_append.mp (is_.mem_iff.mp mem) with mine | other
    · exact (from_ i mine).imp_left fun had ↦ was.mem_iff.mpr (List.mem_append_left _ had)
    · exact .inl (was.mem_iff.mpr (List.mem_append_right _ other))
  refine ⟨⟨?_, ?_, line.nodup owned.line, ?_⟩, fun i mem ↦ (all i mem).imp_right And.left, links⟩
  · exact nodup_kept_turn owned.kept there calls own
      fun i mem ↦ (from_ i mem).imp_right fun new ↦ fresh i new.1
  · intro i mem
    rcases all i mem with before | ⟨-, new⟩
    · exact Nat.lt_of_lt_of_le (owned.made i before) links
    · exact new
  · intro b mem
    obtain ⟨other, deadline, there', waits⟩ := owned.waiting b (line.mem mem)
    have ne : a ≠ b := fun same ↦ gone (same ▸ mem)
    refine ⟨other, deadline, ?_, waits⟩
    rw [calls, Array.getElem?_modify, if_neg ne, there']

theorem Owned.not_in_line (owned : Owned c) (there : c.calls[a]? = some call)
    (stage : ∀ deadline, call.stage ≠ .waiting deadline) : a ∉ c.line :=
  not_mem_line owned.waiting there stage

theorem Owned.drop (owned : Owned c) (there : c.calls[a]? = some call)
    (calls : c'.calls = c.calls.modify a ({ · with stage })) (line : c'.line.Sublist c.line)
    (gone : a ∉ c'.line) (links : c.links.size ≤ c'.links.size) (idle : c'.pool.idle = c.pool.idle)
    (free : stage.link? = none) : Handover c c' := by
  have both := nodup_of_kept owned.kept there
  refine owned.turn there calls line gone links ?_ fun i mem ↦ .inl ?_
  · rw [idle, free]
    exact (List.append_nil c.pool.idle).symm ▸ (List.nodup_append.mp both).1
  · rw [idle, free] at mem
    rcases List.mem_append.mp mem with had | none_
    · exact List.mem_append_left _ had
    · cases none_

theorem Owned.not_in_line_of_held (owned : Owned c) (there : c.calls[a]? = some call)
    (held : call.stage.link? = some i) : a ∉ c.line := by
  refine owned.not_in_line there fun deadline waits ↦ ?_
  rw [waits] at held
  cases held

theorem Owned.fail (owned : Owned c) (there : c.calls[a]? = some call)
    (held : call.stage.link? = some i) (free : stage.link? = none) :
    Handover c (c.fail a i stage) :=
  owned.drop there (fail_calls ..) (List.Sublist.refl _) (owned.not_in_line_of_held there held)
    (by simp) rfl free

theorem Owned.stay (owned : Owned c) (there : c.calls[a]? = some call)
    (held : call.stage.link? = some i) (holds : stage.link? = some i) :
    Handover c (c.setStage a stage) := by
  have both := nodup_of_kept owned.kept there
  refine owned.turn there (setStage_calls ..) (List.Sublist.refl _)
    (owned.not_in_line_of_held there held) (Nat.le_refl _) ?_ fun i mem ↦ .inl ?_
  · rw [setStage_pool, holds, ← held]
    exact both
  · rwa [setStage_pool, holds, ← held] at mem

theorem Owned.finish (owned : Owned c) (there : c.calls[a]? = some call)
    (held : call.stage.link? = some i) (free : stage.link? = none) :
    Handover c ((c.giveBack i).setStage a stage) := by
  have both := nodup_of_kept owned.kept there
  have out := owned.not_in_line_of_held there held
  have calls : ((c.giveBack i).setStage a stage).calls = c.calls.modify a ({ · with stage }) := by
    rw [setStage_calls, giveBack_calls]
  have line : ((c.giveBack i).setStage a stage).line = c.line := giveBack_line c i
  rw [held] at both
  rcases giveBack_cases c i with ⟨put, links⟩ | ⟨pool, links⟩
  · -- what the call had, the pool has now
    have idle : ((c.giveBack i).setStage a stage).pool.idle ++ stage.link?.toList
        = c.pool.idle ++ (some i).toList := by
      rw [setStage_pool, put, free]
      exact List.append_nil _
    refine owned.turn there calls (line ▸ List.Sublist.refl _) (line ▸ out) (by simp [links]) ?_
      fun j mem ↦ .inl ?_
    · exact idle ▸ both
    · rwa [idle, ← held] at mem
  · exact owned.drop there calls (line ▸ List.Sublist.refl _) (line ▸ out) (by simp [links])
      (by simp [pool]) free

theorem Owned.warm (owned : Owned c) : Handover c (c.addLink.giveBack c.links.size) := by
  have new : c.links.size ∉ c.kept := fun mem ↦ Nat.lt_irrefl _ (owned.made _ mem)
  have calls : (c.addLink.giveBack c.links.size).calls = c.calls := giveBack_calls ..
  have line : (c.addLink.giveBack c.links.size).line = c.line := giveBack_line ..
  rcases giveBack_cases c.addLink c.links.size with ⟨put, links⟩ | ⟨pool, links⟩
  · have kept_ : (c.addLink.giveBack c.links.size).kept.Perm (c.links.size :: c.kept) := by
      rw [Client.kept, Client.kept, put, calls, List.append_assoc]
      exact List.perm_middle
    refine ⟨⟨?_, ?_, line ▸ owned.line, ?_⟩, ?_, by simp [links]⟩
    · exact kept_.nodup_iff.mpr (List.nodup_cons.mpr ⟨new, owned.kept⟩)
    · intro i mem
      rw [links, addLink_links, Array.size_push]
      rcases List.mem_cons.mp (kept_.mem_iff.mp mem) with rfl | had
      · exact Nat.lt_succ_self _
      · exact Nat.lt_succ_of_lt (owned.made i had)
    · intro a mem
      rw [calls]
      exact owned.waiting a (line ▸ mem)
    · intro i mem
      rcases List.mem_cons.mp (kept_.mem_iff.mp mem) with rfl | had
      · exact .inr (Nat.le_refl _)
      · exact .inl had
  · exact owned.same calls (by rw [pool]; rfl) line (by simp [links])

/-! ## Every step hands over -/

theorem Owned.lease (owned : Owned c) : Handover c c.leaseStep := by
  rw [leaseStep]
  split
  · next a line i idle first front =>
    obtain ⟨call, deadline, there, waits⟩ := owned.waiting a (first ▸ List.mem_cons_self)
    have nodup := owned.line
    have both := nodup_of_kept owned.kept there
    have taken : (idle ++ [i]).Perm (i :: idle) := List.perm_append_comm
    rw [first] at nodup
    rw [front, waits] at both
    refine owned.turn there (setStage_calls ..) ?_ (List.nodup_cons.mp nodup).1 (Nat.le_refl _) ?_
      fun j mem ↦ .inl ?_
    · rw [first]
      exact List.sublist_cons_self a line
    · exact taken.nodup_iff.mpr (List.nodup_append.mp both).1
    · refine List.mem_append_left _ ?_
      rw [front]
      exact taken.mem_iff.mp mem
  · exact owned.refl

theorem Owned.expire (owned : Owned c) (a : Nat) : Handover c (c.expireStep a) := by
  rw [expireStep]
  split
  · next payment requestedAt deadline there =>
    exact owned.drop there (setStage_calls ..) List.erase_sublist owned.line.not_mem_erase
      (Nat.le_refl _) rfl rfl
  · exact owned.refl

theorem Owned.dial (owned : Owned c) (a : Nat) (failure : Option Transport.Fault) :
    Handover c (c.dialStep a failure) := by
  unfold dialStep
  split
  · next payment requestedAt there =>
    have out : a ∉ c.line := owned.not_in_line there fun _ waits ↦ by cases waits
    split
    · have both := nodup_of_kept owned.kept there
      have new : c.links.size ∉ c.kept := fun mem ↦ Nat.lt_irrefl _ (owned.made _ mem)
      refine owned.turn there (setStage_calls ..) (List.Sublist.refl _) out (by simp) ?_ ?_
      · refine List.nodup_append.mpr
          ⟨(List.nodup_append.mp both).1, List.pairwise_singleton _ _, ?_⟩
        intro j idle j' mem same
        rw [List.mem_singleton.mp mem] at same
        exact new (same ▸ List.mem_append_left _ idle)
      · intro j mem
        rcases List.mem_append.mp mem with idle | mem
        · exact .inl (List.mem_append_left _ idle)
        · rw [List.mem_singleton.mp mem]
          exact .inr ⟨Nat.le_refl _, by simp⟩
    · exact owned.drop there (setStage_calls ..) (List.Sublist.refl _) out (Nat.le_refl _) rfl rfl
  · exact owned.refl

theorem Owned.replace (owned : Owned c) (made : Bool) : Handover c (c.replaceStep made) := by
  rw [replaceStep]
  split
  · exact owned.refl
  · have fewer : Handover c { c with replacements := c.replacements - 1 } :=
      owned.same rfl rfl rfl (Nat.le_refl _)
    dsimp only
    split
    · exact fewer.trans fewer.owned.warm
    · exact fewer

theorem Owned.proceed (owned : Owned c) (there : c.calls[a]? = some call)
    (held : call.stage.link? = some i) (state : Exchange.State) :
    Handover c (c.proceed a i state) := by
  cases state with
  | reading stage => exact owned.stay there held rfl
  | complete response => exact owned.finish there held rfl
  | failed fault => exact owned.fail there held rfl

theorem Owned.modify (owned : Owned c) (i : Nat) (f : Link → Link) :
    Handover c { c with links := c.links.modify i f } :=
  owned.same rfl rfl rfl (Nat.le_of_eq Array.size_modify.symm)

theorem Owned.write (owned : Owned c) (a : Nat) (failure : Option Transport.Fault) :
    Handover c (c.writeStep a failure) := by
  unfold writeStep
  split
  · next payment requestedAt i there =>
    split
    · exact owned.fail there rfl rfl
    · have written := owned.modify i fun l ↦
        { l with sent := c.terms.request ⟨payment, requestedAt, .leased i⟩ :: l.sent }
      exact written.trans (written.owned.proceed there rfl _)
  · exact owned.refl

theorem Owned.read (owned : Owned c) (a : Nat) : Handover c (c.readStep a) := by
  unfold readStep
  split
  · next payment requestedAt i stage there =>
    split
    · next link here =>
      split
      · exact owned.refl
      · exact owned.proceed there rfl _
      · next octets took =>
        have drained := owned.modify i fun l ↦ { l with inbox := l.inbox.drop octets.length }
        exact drained.trans (drained.owned.proceed there rfl _)
    · exact owned.refl
  · exact owned.refl

theorem Owned.abandon (owned : Owned c) (a : Nat) : Handover c (c.abandonStep a) := by
  rw [abandonStep]
  split
  · next payment requestedAt deadline there =>
    exact owned.drop there (setStage_calls ..) List.erase_sublist owned.line.not_mem_erase
      (Nat.le_refl _) rfl rfl
  · next payment requestedAt there =>
    exact owned.drop there (setStage_calls ..) (List.Sublist.refl _)
      (owned.not_in_line there fun _ waits ↦ by cases waits) (Nat.le_refl _) rfl rfl
  · next payment requestedAt i there => exact owned.fail there rfl rfl
  · next payment requestedAt i stage there => exact owned.fail there rfl rfl
  · exact owned.refl

theorem Owned.begin (owned : Owned c) (payment : Payment) (requestedAt : Millis) (now : Ticks) :
    Handover c (c.step (.call payment requestedAt now)) := by
  have calls : (c.step (.call payment requestedAt now)).calls
      = c.calls.push ⟨payment, requestedAt, .waiting (now + c.terms.patience)⟩ := rfl
  have had : (c.step (.call payment requestedAt now)).kept = c.kept := by
    rw [Client.kept, calls, Array.toList_push, List.filterMap_append]
    exact congrArg (c.pool.idle ++ ·) (List.append_nil _)
  refine ⟨⟨had ▸ owned.kept, had ▸ owned.made, ?_, ?_⟩, fun i mem ↦ .inl (had ▸ mem),
    Nat.le_refl _⟩
  · refine List.nodup_append.mpr
      ⟨owned.line, List.pairwise_singleton _ _, fun b mem b' mem' same ↦ ?_⟩
    obtain ⟨other, -, there, -⟩ := owned.waiting b mem
    rw [same, List.mem_singleton.mp mem', Array.getElem?_size] at there
    cases there
  · intro b mem
    rw [calls]
    rcases List.mem_append.mp mem with before | new
    · obtain ⟨other, deadline, there, waits⟩ := owned.waiting b before
      obtain ⟨within, -⟩ := Array.getElem?_eq_some_iff.mp there
      refine ⟨other, deadline, ?_, waits⟩
      rw [Array.getElem?_push, if_neg (Nat.ne_of_lt within), there]
    · rw [List.mem_singleton.mp new]
      exact ⟨_, _, Array.getElem?_push_size, rfl⟩

/-- **A step hands connections over**, or makes new ones. -/
theorem Owned.step (owned : Owned c) (event : Event) : Handover c (c.step event) := by
  cases event with
  | call payment requestedAt now => exact owned.begin payment requestedAt now
  | warmed => exact owned.warm
  | lease => exact owned.lease
  | expire call => exact owned.expire call
  | dialed call failure => exact owned.dial call failure
  | replaced made => exact owned.replace made
  | write call failure => exact owned.write call failure
  | deliver link octets => exact owned.modify link _
  | hangUp link ending => exact owned.modify link _
  | read call => exact owned.read call
  | abandon call => exact owned.abandon call

/-- **So does a run.** -/
theorem Owned.run (owned : Owned c) (events : List Event) : Handover c (c.run events) := by
  induction events generalizing c with
  | nil => exact owned.refl
  | cons event events ih =>
    have one := owned.step event
    exact one.trans (ih one.owned)

theorem owned_new (terms : Terms) (size : Nat) : Owned (new terms size) where
  kept := List.nodup_nil
  made i mem := by cases mem
  line := List.nodup_nil
  waiting a mem := by cases mem

/-- **What nobody has is never used again**, if it was made. -/
theorem Owned.not_kept_run (owned : Owned c) (made : i < c.links.size) (free : i ∉ c.kept)
    (events : List Event) : i ∉ (c.run events).kept := by
  intro mem
  rcases (owned.run events).kept i mem with had | new
  · exact free had
  · exact Nat.not_lt_of_le new made

theorem Owned.free_of_drop (owned : Owned c) (there : c.calls[a]? = some call)
    (held : call.stage.link? = some i) (calls : c'.calls = c.calls.modify a ({ · with stage }))
    (idle : c'.pool.idle = c.pool.idle) (free : stage.link? = none) : i ∉ c'.kept := by
  obtain ⟨others, was, is_⟩ := kept_turn there calls
  have nodup := was.nodup_iff.mp owned.kept
  rw [held] at nodup
  obtain ⟨own, -, apart⟩ := List.nodup_append.mp nodup
  intro mem
  rw [is_.mem_iff, idle, free] at mem
  rcases List.mem_append.mp mem with mine | other
  · rcases List.mem_append.mp mine with had | none_
    · exact (List.nodup_append.mp own).2.2 i had i List.mem_cons_self rfl
    · cases none_
  · exact apart i (List.mem_append_right _ List.mem_cons_self) i other rfl

end PaymentRelay.Processor.Client
