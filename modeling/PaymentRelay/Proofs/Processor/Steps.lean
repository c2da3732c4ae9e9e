import PaymentRelay.Proofs.Processor.Tidy

/-!
# Steps that neither write nor read

Connections are made and dialed, octets arrive and the other side hangs up, calls stand in line,
lease, lose patience and are given up. None of this disturbs the invariant. Where octets arrive on
a connection on which nothing is outstanding, there are none; that is all that is asked of the
processor here.
-/

namespace PaymentRelay.Processor.Watched

open Client (later_addLink)

variable {script : Script} {w w' : Watched} {a i : Nat}

/-! ## Steps that change connections alone -/

theorem Tidy.of_links (tidy : w.Tidy script) (later : w.client.Later w'.client)
    (calls : w'.client.calls = w.client.calls) (line : w'.client.line = w.client.line)
    (pool : w'.client.pool = w.client.pool) (posted : w'.posted = w.posted)
    (heard : ∀ i, w.arrived i <+: w'.arrived i)
    (past : ∀ (i : Nat) (l : Link), w.client.links[i]? = some l → l.ending.isSome = true →
      w'.arrived i = w.arrived i)
    (due : ∀ (i : Nat) (l : Link), w'.client.links[i]? = some l →
      w'.arrived i <+: script.upTo i l.sent.length)
    (unmade : ∀ i, w'.client.links[i]? = none → w'.arrived i = [])
    (clean : ∀ i, w.Clean script i → w'.Clean script i)
    (busy : ∀ a i stage, w.Busy script a i stage → w'.Busy script a i stage) : w'.Tidy script where
  kept := by
    rw [Client.kept, calls, pool]
    exact tidy.kept
  line := line ▸ tidy.line
  waiting b mem := by
    rw [line] at mem
    rw [calls]
    exact tidy.waiting b mem
  due := due
  unmade := unmade
  idle i mem := by
    rw [pool] at mem
    exact clean i (tidy.idle i mem)
  calls b call there := by
    rw [calls] at there
    have before := tidy.calls b call there
    cases stage : call.stage with
    | waiting => rw [stage] at before; exact (congrFun posted b).trans before
    | dialing => rw [stage] at before; exact (congrFun posted b).trans before
    | leased i =>
      rw [stage] at before
      exact ⟨(congrFun posted b).trans before.1, clean i before.2⟩
    | reading i reader =>
      rw [stage] at before
      exact busy b i reader before
    | finished outcome =>
      rw [stage] at before
      exact before.of_later later heard past (congrFun posted b)
    | abandoned => trivial
  posted b i k place := by
    rw [posted] at place
    exact tidy.posted_of_later later place
  once b b' place here here' := by
    rw [posted] at here here'
    exact tidy.once b b' place here here'

theorem Tidy.modify (tidy : w.Tidy script) (i : Nat) (f : Link → Link)
    (inbox : ∀ l, (f l).inbox = l.inbox) (sent : ∀ l, (f l).sent = l.sent)
    (ended : ∀ l, l.ending.isSome = true → (f l).ending.isSome = true) :
    Tidy script
      ⟨{ w.client with links := w.client.links.modify i f }, w.arrived, w.posted⟩ := by
  have later := Client.later_modify w.client i f (fun l ↦ (sent l).symm ▸ List.suffix_refl _) ended
  have kept : ∀ (j : Nat) (l : Link), w.client.links[j]? = some l →
      ∃ l', (w.client.links.modify i f)[j]? = some l' ∧ l'.inbox = l.inbox ∧ l'.sent = l.sent := by
    intro j l there
    rw [Array.getElem?_modify, there]
    split
    · exact ⟨f l, rfl, inbox l, sent l⟩
    · exact ⟨l, rfl, rfl, rfl⟩
  refine tidy.of_links later rfl rfl rfl rfl (fun _ ↦ List.prefix_refl _) (fun _ _ _ _ ↦ rfl)
    (tidy.due_of_later later rfl) (fun j none_ ↦ tidy.unmade j (later.unmade none_)) ?_ ?_
  · rintro j ⟨l, there, empty, all⟩
    obtain ⟨l', there', same, same'⟩ := kept j l there
    exact ⟨l', there', same.trans empty, same'.symm ▸ all⟩
  · rintro b j stage ⟨l, k, read, there, place, last, all, knows⟩
    obtain ⟨l', there', same, same'⟩ := kept j l there
    exact ⟨l', k, read, there', place, same'.symm ▸ last, same.symm ▸ all, knows⟩

theorem Tidy.hangUp (tidy : w.Tidy script) (i : Nat) (ending : Transport.Fault) :
    (w.step (.hangUp i ending)).Tidy script := by
  refine tidy.modify i _ (fun l ↦ ?_) (fun l ↦ ?_) fun l past ↦ ?_
  · split <;> rfl
  · split <;> rfl
  · rw [if_pos past]
    exact past

/-- Octets arrive on one connection, if they do not come too late. -/
theorem deliver_cases (w : Watched) (i : Nat) (octets : Bytes) (j : Nat) :
    ((w.step (.deliver i octets)).client.links[j]? = w.client.links[j]? ∧
        (w.step (.deliver i octets)).arrived j = w.arrived j) ∨
      ∃ l, j = i ∧ w.client.links[j]? = some l ∧ l.ending = none ∧
        (w.step (.deliver i octets)).client.links[j]?
          = some { l with inbox := l.inbox ++ octets } ∧
        (w.step (.deliver i octets)).arrived j = w.arrived j ++ octets := by
  have links : (w.step (.deliver i octets)).client.links = w.client.links.modify i fun l ↦
      if l.ending.isSome then l else { l with inbox := l.inbox ++ octets } := rfl
  have arrived : (w.step (.deliver i octets)).arrived j =
      if j = i ∧ w.client.hears i then w.arrived j ++ octets else w.arrived j := rfl
  rw [links, arrived, Array.getElem?_modify]
  by_cases same : i = j
  · subst same
    rw [if_pos rfl, Client.hears]
    cases there : w.client.links[i]? with
    | none => exact Or.inl ⟨rfl, if_neg fun h ↦ Bool.false_ne_true h.2⟩
    | some l =>
      cases ending : l.ending with
      | some fault =>
        refine Or.inl ⟨?_, if_neg fun h ↦ ?_⟩
        · rw [Option.map_some, ending]
          rfl
        · rw [Option.any_some, ending] at h
          exact Bool.false_ne_true h.2
      | none =>
        refine Or.inr ⟨l, rfl, rfl, ending, ?_, if_pos ⟨rfl, ?_⟩⟩
        · rw [Option.map_some, ending]
          rfl
        · rw [Option.any_some, ending]
          rfl
  · rw [if_neg same]
    exact Or.inl ⟨rfl, if_neg fun h ↦ same h.1.symm⟩

theorem Tidy.deliver (tidy : w.Tidy script) (i : Nat) (octets : Bytes)
    (answering : w.Answering script (.deliver i octets)) :
    (w.step (.deliver i octets)).Tidy script := by
  have later := Client.later_step w.client (.deliver i octets)
  refine tidy.of_links later rfl rfl rfl rfl ?_ ?_ ?_ ?_ ?_ ?_
  · intro j
    rcases deliver_cases w i octets j with ⟨-, same⟩ | ⟨l, -, -, -, -, more⟩
    · rewrite [same]
      exact List.prefix_refl _
    · rw [more]
      exact List.prefix_append _ _
  · intro j l there past
    rcases deliver_cases w i octets j with ⟨-, same⟩ | ⟨l', -, there', still, -, -⟩
    · exact same
    · rw [there] at there'
      cases there'
      rw [still] at past
      cases past
  · intro j l there
    rcases deliver_cases w i octets j with ⟨same, same'⟩ | ⟨l', rfl, here, still, there', more⟩
    · rw [same']
      exact tidy.due j l (same ▸ there)
    · rw [there] at there'
      cases there'
      rw [more]
      exact answering l' here still
  · intro j none_
    rcases deliver_cases w i octets j with ⟨-, same⟩ | ⟨l, -, -, -, there, -⟩
    · rw [same]
      exact tidy.unmade j (later.unmade none_)
    · rw [none_] at there
      cases there
  · intro j clean
    rcases deliver_cases w i octets j with ⟨same, same'⟩ | ⟨l, rfl, here, still, there, more⟩
    · exact clean.of_same same same'
    · -- all that is due has arrived, so nothing arrives
      obtain ⟨l', here', empty, all⟩ := clean
      rw [here] at here'
      cases here'
      have due := (answering l here still).length_le
      rw [all, List.length_append] at due
      have nothing : octets = [] := List.length_eq_zero_iff.mp (by omega)
      refine ⟨_, there, ?_, ?_⟩
      · rw [empty, nothing, List.append_nil]
      · rw [more, nothing, List.append_nil]
        exact all
  · intro b j stage busy
    obtain ⟨l', k, read, here', place, last, all, knows⟩ := busy
    rcases deliver_cases w i octets j with ⟨same, same'⟩ | ⟨l, rfl, here, still, there, more⟩
    · exact ⟨l', k, read, same.trans here', place, last, same'.trans all, knows⟩
    · rw [here] at here'
      cases here'
      refine ⟨_, k, read, there, place, last, ?_, knows⟩
      rw [more, all, List.append_assoc, List.append_assoc]

/-! ## Connections that are made for the pool -/

theorem Tidy.clean_new (tidy : w.Tidy script)
    (there : w'.client.links[w.client.links.size]? = some .new) (arrived : w'.arrived = w.arrived) :
    w'.Clean script w.client.links.size := by
  refine ⟨.new, there, rfl, ?_⟩
  rw [arrived, tidy.unmade _ Array.getElem?_size]
  rfl

theorem Tidy.addLink (tidy : w.Tidy script) :
    Tidy script ⟨w.client.addLink, w.arrived, w.posted⟩ := by
  have later := later_addLink w.client
  have kept : ∀ (j : Nat) (l : Link), w.client.links[j]? = some l →
      w.client.addLink.links[j]? = some l := by
    intro j l there
    obtain ⟨within, -⟩ := Array.getElem?_eq_some_iff.mp there
    rw [Client.addLink_links, Array.getElem?_push, if_neg (Nat.ne_of_lt within), there]
  refine tidy.of_links later rfl rfl rfl rfl (fun _ ↦ List.prefix_refl _) (fun _ _ _ _ ↦ rfl)
    (tidy.due_of_later later rfl) (fun j none_ ↦ tidy.unmade j (later.unmade none_)) ?_ ?_
  · rintro j ⟨l, there, rest⟩
    exact ⟨l, kept j l there, rest⟩
  · rintro b j stage ⟨l, k, read, there, rest⟩
    exact ⟨l, k, read, kept j l there, rest⟩

/-- A clean connection may be given to the pool, if nobody shares it then. -/
theorem Tidy.giveBack (tidy : w.Tidy script) (clean : w.Clean script i)
    (owned : Client.Owned (w.client.giveBack i)) :
    Tidy script ⟨w.client.giveBack i, w.arrived, w.posted⟩ := by
  rw [Client.giveBack] at owned ⊢
  split
  · next room =>
    rw [if_pos room] at owned
    have put : (w.client.pool.put i).idle = w.client.pool.idle ++ [i] := by
      rw [Pool.put, if_pos room]
    refine ⟨owned.kept, tidy.line, tidy.waiting, tidy.due, tidy.unmade, ?_, tidy.calls,
      tidy.posted, tidy.once⟩
    intro j mem
    dsimp only at mem
    rw [put] at mem
    rcases List.mem_append.mp mem with had | new
    · exact tidy.idle j had
    · rw [List.mem_singleton.mp new]
      exact clean
  · exact tidy.modify i _ (fun _ ↦ rfl) (fun _ ↦ rfl) fun _ past ↦ past

theorem Tidy.warmed (tidy : w.Tidy script) :
    Tidy script ⟨w.client.addLink.giveBack w.client.links.size, w.arrived, w.posted⟩ := by
  refine tidy.addLink.giveBack (tidy.clean_new ?_ rfl) tidy.owned.warm.owned
  exact Array.getElem?_push_size

theorem Tidy.replace (tidy : w.Tidy script) (made : Bool) :
    (w.step (.replaced made)).Tidy script := by
  have fewer : Tidy script
      ⟨{ w.client with replacements := w.client.replacements - 1 }, w.arrived, w.posted⟩ :=
    ⟨tidy.kept, tidy.line, tidy.waiting, tidy.due, tidy.unmade, tidy.idle, tidy.calls, tidy.posted,
      tidy.once⟩
  have client : w.step (.replaced made) = ⟨w.client.replaceStep made, w.arrived, w.posted⟩ := rfl
  rw [client, Client.replaceStep]
  split
  · exact tidy
  dsimp only
  split
  · exact fewer.warmed
  · exact fewer

/-! ## Steps of calls -/

theorem Tidy.call (tidy : w.Tidy script) (payment : Payment) (requestedAt : Millis)
    (now : Ticks) : (w.step (.call payment requestedAt now)).Tidy script := by
  have later := Client.later_step w.client (.call payment requestedAt now)
  have new : w.posted w.client.calls.size = none := by
    cases place : w.posted w.client.calls.size with
    | none => rfl
    | some spot =>
      obtain ⟨call, -, there, -⟩ := tidy.posted _ spot.1 spot.2 place
      rw [Array.getElem?_size] at there
      cases there
  have calls : (w.step (.call payment requestedAt now)).client.calls = w.client.calls.push
      ⟨payment, requestedAt, .waiting (now + w.client.terms.patience)⟩ := rfl
  have begun := (tidy.owned.begin payment requestedAt now).owned
  refine ⟨begun.kept, begun.line, begun.waiting, tidy.due, tidy.unmade, tidy.idle, ?_, ?_,
    tidy.once⟩
  · intro b other there
    rw [calls, Array.getElem?_push] at there
    split at there
    · next last =>
      cases there
      rw [last]
      exact new
    · exact (tidy.calls b other there).of_same later rfl rfl fun _ _ ↦ rfl
  · intro b i k place
    exact tidy.posted_of_later later place

theorem Tidy.lease (tidy : w.Tidy script) : (w.step .lease).Tidy script := by
  have later := Client.later_leaseStep w.client
  have handover := tidy.owned.lease
  have client : w.step .lease = ⟨w.client.leaseStep, w.arrived, w.posted⟩ := rfl
  rw [client]
  rw [Client.leaseStep] at later handover ⊢
  split
  · next a line i idle first front =>
    rw [first, front] at later handover
    obtain ⟨call, deadline, there, waits⟩ := tidy.waiting a (first ▸ List.mem_cons_self)
    have order := tidy.calls a call there
    rw [waits] at order
    refine tidy.turn there (Client.setStage_calls ..) later handover rfl (fun _ _ _ ↦ rfl) ?_
      (fun _ _ ↦ rfl) (fun _ _ h ↦ Or.inl h) ⟨order, ?_⟩
    · intro j mem new
      refine absurd ?_ new
      rw [front]
      exact List.mem_cons_of_mem i mem
    · exact (tidy.idle i (front ▸ List.mem_cons_self)).of_same rfl rfl
  · exact tidy

theorem Tidy.expire (tidy : w.Tidy script) (a : Nat) : (w.step (.expire a)).Tidy script := by
  have later := Client.later_expireStep w.client a
  have handover := tidy.owned.expire a
  have client : w.step (.expire a) = ⟨w.client.expireStep a, w.arrived, w.posted⟩ := rfl
  rw [client]
  rw [Client.expireStep] at later handover ⊢
  split
  · next payment requestedAt deadline there =>
    rw [there] at later handover
    exact tidy.turn_within there (Client.setStage_calls ..) later handover rfl rfl
      (fun _ _ ↦ rfl) rfl (tidy.calls a _ there)
  · exact tidy

theorem Tidy.abandon (tidy : w.Tidy script) (a : Nat) : (w.step (.abandon a)).Tidy script := by
  have later := Client.later_abandonStep w.client a
  have handover := tidy.owned.abandon a
  have client : w.step (.abandon a) = ⟨w.client.abandonStep a, w.arrived, w.posted⟩ := rfl
  rw [client]
  rw [Client.abandonStep] at later handover ⊢
  split
  · next payment requestedAt deadline there =>
    rw [there] at later handover
    exact tidy.turn_within there (Client.setStage_calls ..) later handover rfl rfl
      (fun _ _ ↦ rfl) rfl trivial
  · next payment requestedAt there =>
    rw [there] at later handover
    exact tidy.turn_within there (Client.setStage_calls ..) later handover rfl rfl
      (fun _ _ ↦ rfl) rfl trivial
  · next payment requestedAt i there => exact tidy.fail there rfl rfl trivial
  · next payment requestedAt i stage there => exact tidy.fail there rfl rfl trivial
  · exact tidy

theorem settled_of_unposted {outcome : ProcessorOutcome} (none_ : w.posted a = none)
    (untold : outcome.Untold) : w.Settled script a outcome := by
  refine Or.inr ⟨untold, fun i k place ↦ ?_⟩
  rw [none_] at place
  cases place

theorem Tidy.dial (tidy : w.Tidy script) (a : Nat) (failure : Option Transport.Fault) :
    (w.step (.dialed a failure)).Tidy script := by
  have later := Client.later_dialStep w.client a failure
  have handover := tidy.owned.dial a failure
  have client : w.step (.dialed a failure) = ⟨w.client.dialStep a failure, w.arrived, w.posted⟩ :=
    rfl
  rw [client]
  unfold Client.dialStep at later handover ⊢
  split
  · next payment requestedAt there =>
    rw [there] at later handover
    have unposted : w.posted a = none := tidy.calls a _ there
    cases failure with
    | some fault =>
      exact tidy.turn_within there (Client.setStage_calls ..) later handover rfl rfl
        (fun _ _ ↦ rfl) rfl (settled_of_unposted unposted trivial)
    | none =>
      refine tidy.turn there (Client.setStage_calls ..) later handover rfl ?_ ?_ (fun _ _ ↦ rfl)
        (fun _ _ h ↦ Or.inl h) ⟨unposted, ?_⟩
      · intro j mem _
        exact Array.getElem?_push.trans (if_neg (Nat.ne_of_lt (tidy.owned.made j mem)))
      · intro j mem new
        exact absurd mem new
      · exact tidy.clean_new Array.getElem?_push_size rfl
  · exact tidy

end PaymentRelay.Processor.Watched
