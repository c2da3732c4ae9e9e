import PaymentRelay.Proofs.Processor.Steps

/-!
# Writing a request and reading its response

A call writes its request behind those that stand on its connection, and since nothing is
outstanding there, whatever arrives from then on is the response to that request. Each read takes a
piece of it. When the last octet has been read, the connection is as clean as before and goes back
to the pool; a call that stops reading before that closes it.
-/

namespace PaymentRelay.Processor.Watched

open Exchange (statusOf? Framed)

variable {script : Script} {w : Watched} {a i : Nat}

/-! ## Writing -/

/-- A call that has a connection and writes there goes on to read; any other call does not write. -/
theorem write_cases (c : Client) (a : Nat) :
    (∃ payment requestedAt i, c.calls[a]? = some ⟨payment, requestedAt, .leased i⟩ ∧
        c.place? a = (c.links[i]?).map (fun l ↦ (i, l.sent.length)) ∧
        c.writeStep a none = Client.setStage
          { c with links := c.links.modify i fun l ↦
              { l with sent := c.terms.request ⟨payment, requestedAt, .leased i⟩ :: l.sent } }
          a (.reading i (.line []))) ∨
      (c.place? a = none ∧ c.writeStep a none = c) := by
  rw [Client.place?, Client.writeStep]
  rcases there : c.calls[a]? with _ | ⟨payment, requestedAt, stage⟩
  · exact Or.inr ⟨rfl, rfl⟩
  cases stage with
  | leased i => exact Or.inl ⟨payment, requestedAt, i, rfl, rfl, rfl⟩
  | _ => exact Or.inr ⟨rfl, rfl⟩

theorem Tidy.write (tidy : w.Tidy script) (a : Nat) (failure : Option Transport.Fault) :
    (w.step (.write a failure)).Tidy script := by
  cases failure with
  | some fault =>
    have client : w.step (.write a (some fault))
        = ⟨w.client.writeStep a (some fault), w.arrived, w.posted⟩ := rfl
    rw [client]
    unfold Client.writeStep
    split
    · next payment requestedAt i there =>
      have unposted : w.posted a = none := (tidy.calls a _ there).1
      refine tidy.fail there rfl rfl (settled_of_unposted ?_ (.of_transport fault))
      exact unposted
    · exact tidy
  | none =>
    have later := Client.later_writeStep w.client a none
    have handover := tidy.owned.write a none
    have client : w.step (.write a none) = ⟨w.client.writeStep a none, w.arrived,
        fun b ↦ if b = a then w.client.place? a <|> w.posted b else w.posted b⟩ := rfl
    rw [client]
    rcases write_cases w.client a with ⟨payment, requestedAt, i, there, place, next⟩ | ⟨place, same⟩
    · obtain ⟨unposted, l, here, empty, all⟩ := tidy.calls a _ there
      have written : (w.client.links.modify i fun l ↦ { l with
          sent := w.client.terms.request ⟨payment, requestedAt, .leased i⟩ :: l.sent })[i]?
            = some { l with
              sent := w.client.terms.request ⟨payment, requestedAt, .leased i⟩ :: l.sent } := by
        rw [Array.getElem?_modify, if_pos rfl, here, Option.map_some]
      rw [here, Option.map_some] at place
      rw [next, place]
      rw [next] at later handover
      refine tidy.turn there (Client.setStage_calls ..) later handover rfl ?_
        (fun j mem new ↦ absurd mem new) ?_ ?_ ?_
      · intro j _ other
        have ne : i ≠ j := fun same ↦ other (congrArg some same)
        exact Array.getElem?_modify.trans (if_neg ne)
      · intro b ne
        exact if_neg ne
      · intro j k posted
        dsimp only at posted
        rw [if_pos rfl] at posted
        cases posted
        exact Or.inr ⟨l, _, here, rfl, written, rfl⟩
      · refine ⟨_, l.sent.length, [], written, if_pos rfl, rfl, ?_, rfl, rfl⟩
        rw [all, empty, List.append_nil, List.append_nil]
    · have posted : (fun b ↦ if b = a then w.client.place? a <|> w.posted b else w.posted b)
          = w.posted := by
        funext b
        rw [place]
        split <;> rfl
      rw [same, posted]
      exact tidy

/-! ## Reading -/

/-- A call has read so many octets from a connection. -/
def drained (c : Client) (i n : Nat) : Client :=
  { c with links := c.links.modify i fun l ↦ { l with inbox := l.inbox.drop n } }

theorem later_drained (c : Client) (i n : Nat) : c.Later (drained c i n) :=
  Client.later_modify c i _ (fun _ ↦ List.suffix_refl _) fun _ past ↦ past

theorem handover_drained {c : Client} {call : Call} (owned : c.Owned)
    (there : c.calls[a]? = some call) (held : call.stage.link? = some i) (n : Nat)
    (state : Exchange.State) : c.Handover ((drained c i n).proceed a i state) := by
  have drained_ : c.Handover (drained c i n) := owned.modify i _
  exact drained_.trans (drained_.owned.proceed there held state)

theorem drained_links_of_ne (c : Client) {i j : Nat} (n : Nat) (ne : i ≠ j) :
    (drained c i n).links[j]? = c.links[j]? :=
  Array.getElem?_modify.trans (if_neg ne)

theorem drained_links {c : Client} {l : Link} {octets rest : Bytes} (here : c.links[i]? = some l)
    (cut : l.inbox = octets ++ rest) :
    (drained c i octets.length).links[i]? = some { l with inbox := rest } := by
  rw [drained, Array.getElem?_modify, if_pos rfl, here, Option.map_some, cut, List.drop_left]

section Parts

variable {c : Client} {payment : Payment} {requestedAt : Millis} {stage : Exchange.Stage} {l : Link}
  (there : c.calls[a]? = some ⟨payment, requestedAt, .reading i stage⟩)
  (here : c.links[i]? = some l)
include there here

theorem readStep_nothing (took : l.inbox.take (stage.room responseTerms) = []) :
    c.readStep a = match l.ending with
      | none => c
      | some fault => c.fail a i (.finished (.refused (.ofTransport fault))) := by
  rw [Client.readStep, there]
  dsimp only
  rw [here]
  dsimp only
  rw [Client.nextRead, took]
  cases l.ending <;> rfl

theorem readStep_octets {octets : Bytes} (took : l.inbox.take (stage.room responseTerms) = octets)
    (some_ : octets ≠ []) :
    c.readStep a = (drained c i octets.length).proceed a i
      (Exchange.feed responseTerms stage octets) := by
  rw [Client.readStep, there]
  dsimp only
  rw [here]
  dsimp only
  rw [Client.nextRead, took, List.isEmpty_eq_false_iff.mpr some_, if_neg Bool.false_ne_true]
  rfl

end Parts

/-- What has been read and what is still unread are the beginning of the response that is due. -/
theorem Tidy.prefix_of_busy (tidy : w.Tidy script) {l : Link} {k : Nat} {read : Bytes}
    (here : w.client.links[i]? = some l) (last : l.sent.length = k + 1)
    (all : w.arrived i = script.upTo i k ++ (read ++ l.inbox)) :
    read ++ l.inbox <+: script i k := by
  have due := tidy.due i l here
  rw [last, Script.upTo_succ, all] at due
  exact (List.prefix_append_right_inj _).mp due

section Reading

variable {payment : Payment} {requestedAt : Millis} {stage : Exchange.Stage} {l : Link} {k : Nat}
  {read octets rest : Bytes} (tidy : w.Tidy script)
  (there : w.client.calls[a]? = some ⟨payment, requestedAt, .reading i stage⟩)
  (here : w.client.links[i]? = some l) (place : w.posted a = some (i, k))
  (last : l.sent.length = k + 1) (all : w.arrived i = script.upTo i k ++ (read ++ l.inbox))
  (cut : l.inbox = octets ++ rest)

include tidy there place

theorem Tidy.read_failed (none_ : statusOf? (script i k) = none) (fault : Transport.Fault) :
    Tidy script ⟨(drained w.client i octets.length).fail a i
      (.finished (.refused (.ofTransport fault))), w.arrived, w.posted⟩ := by
  have later := (later_drained w.client i octets.length).trans
    (Client.later_fail _ a i (.finished (.refused (.ofTransport fault))))
  have handover := handover_drained tidy.owned there rfl octets.length (.failed fault)
  refine tidy.turn_within there (Client.fail_calls ..) later handover rfl rfl ?_ rfl ?_
  · intro j other
    have ne : i ≠ j := fun same ↦ other (congrArg some same)
    rw [Client.fail_links, Array.getElem?_modify, if_neg ne]
    exact drained_links_of_ne _ _ ne
  · refine Or.inr ⟨.of_transport fault, fun j k' place' ↦ Or.inl ?_⟩
    dsimp only at place'
    rw [place] at place'
    cases place'
    exact none_

include here last all cut

theorem Tidy.read_more {stage' : Exchange.Stage}
    (knows : stage'.Knows (script i k) (read ++ octets)) :
    Tidy script ⟨(drained w.client i octets.length).setStage a (.reading i stage'), w.arrived,
      w.posted⟩ := by
  have later := (later_drained w.client i octets.length).trans
    (Client.later_setStage _ a (.reading i stage'))
  have handover := handover_drained tidy.owned there rfl octets.length (.reading stage')
  refine tidy.turn_within there (Client.setStage_calls ..) later handover rfl rfl ?_ rfl ?_
  · intro j other
    exact drained_links_of_ne _ _ fun same ↦ other (congrArg some same)
  · refine ⟨_, k, read ++ octets, drained_links here cut, place, last, ?_, knows⟩
    dsimp only
    rw [all, cut, List.append_assoc]

theorem Tidy.read_complete {response : Exchange.Complete} (whole : read ++ octets = script i k)
    (told : statusOf? (script i k) = some response.answer.status) :
    Tidy script ⟨((drained w.client i octets.length).giveBack i).setStage a
      (.finished (outcomeOf response.answer)), w.arrived, w.posted⟩ := by
  have later := ((later_drained w.client i octets.length).trans (Client.later_giveBack _ i)).trans
    (Client.later_setStage _ a (.finished (outcomeOf response.answer)))
  have handover := handover_drained tidy.owned there rfl octets.length (.complete response)
  -- the response is due and has been read, so nothing can have arrived behind it
  have nothing : rest = [] := by
    have due := (tidy.prefix_of_busy here last all).length_le
    rw [cut, ← List.append_assoc, whole, List.length_append] at due
    exact List.length_eq_zero_iff.mp (by omega)
  have exactly : w.arrived i = script.upTo i (k + 1) := by
    rw [all, cut, nothing, List.append_nil, whole, Script.upTo_succ]
  have received : w.Received script i k := by
    rewrite [Received, exactly]
    exact List.prefix_refl _
  have mine (c : Client) :
      InOrder script ⟨c, w.arrived, w.posted⟩ a (.finished (outcomeOf response.answer)) :=
    Or.inl ⟨i, k, response.answer, place, received, told, rfl⟩
  have calls : (((drained w.client i octets.length).giveBack i).setStage a
      (.finished (outcomeOf response.answer))).calls
        = w.client.calls.modify a ({ · with stage := .finished (outcomeOf response.answer) }) := by
    rw [Client.setStage_calls, Client.giveBack_calls]
    exact rfl
  have elsewhere : ∀ j, some i ≠ some j →
      (drained w.client i octets.length).links[j]? = w.client.links[j]? :=
    fun j other ↦ drained_links_of_ne _ _ fun same ↦ other (congrArg some same)
  rcases Client.giveBack_cases (drained w.client i octets.length) i with
    ⟨put, links⟩ | ⟨pool, links⟩
  · -- the pool takes it, and it is clean
    refine tidy.turn there calls later handover rfl ?_ ?_ (fun _ _ ↦ rfl) (fun _ _ h ↦ Or.inl h)
      (mine _)
    · intro j _ other
      rw [Client.setStage_links, links]
      exact elsewhere j other
    · intro j mem new
      rw [Client.setStage_pool, put] at mem
      rcases List.mem_append.mp mem with had | back
      · exact absurd had new
      · rw [List.mem_singleton.mp back]
        refine ⟨{ l with inbox := rest }, ?_, nothing, ?_⟩
        · rw [Client.setStage_links, links]
          exact drained_links here cut
        · dsimp only
          rw [exactly, last]
  · -- the pool is full, and the connection is closed
    refine tidy.turn_within there calls later handover rfl pool ?_ rfl (mine _)
    intro j other
    have ne : i ≠ j := fun same ↦ other (congrArg some same)
    rw [Client.setStage_links, links, Array.getElem?_modify, if_neg ne]
    exact elsewhere j other

end Reading

theorem Tidy.read (framed : ∀ i k, Framed responseTerms.capacity (script i k))
    (tidy : w.Tidy script) (a : Nat) : (w.step (.read a)).Tidy script := by
  have client : w.step (.read a) = ⟨w.client.readStep a, w.arrived, w.posted⟩ := rfl
  rw [client]
  by_cases reads : ∃ payment requestedAt i stage,
      w.client.calls[a]? = some ⟨payment, requestedAt, .reading i stage⟩
  · obtain ⟨payment, requestedAt, i, stage, there⟩ := reads
    obtain ⟨l, k, read, here, place, last, all, knows⟩ := tidy.calls a _ there
    have start := tidy.prefix_of_busy here last all
    have room : 0 < stage.room responseTerms := by
      refine Exchange.room_pos_of_knows (fun n sink ↦ ?_) (framed i k) knows
        ((List.prefix_append read l.inbox).trans start)
      cases sink
      exact Nat.zero_lt_succ 511
    by_cases took : l.inbox.take (stage.room responseTerms) = []
    · rw [readStep_nothing there here took]
      cases ending : l.ending with
      | none => exact tidy
      | some fault =>
        refine tidy.fail there rfl rfl (Or.inr ⟨.of_transport fault, fun j k' place' ↦ Or.inr ?_⟩)
        dsimp only at place'
        rw [place] at place'
        cases place'
        -- the stream has ended where something was still to be read
        have empty : l.inbox = [] := by
          rcases List.take_eq_nil_iff.mp took with none_ | empty
          · omega
          · exact empty
        rw [empty, List.append_nil] at all start
        have short := Exchange.length_lt_of_knows (framed i k) knows start
        refine ⟨{ l with isOpen := false }, ?_, Option.isSome_of_eq_some ending, fun received ↦ ?_⟩
        · rw [Client.fail_links, Array.getElem?_modify, if_pos rfl, here, Option.map_some]
        · rw [Received, Script.upTo_succ] at received
          have most := received.length_le
          dsimp only at most
          rw [all, List.length_append, List.length_append] at most
          omega
    · have cut : l.inbox = l.inbox.take (stage.room responseTerms)
          ++ l.inbox.drop (stage.room responseTerms) := (List.take_append_drop _ _).symm
      rw [readStep_octets there here rfl took]
      generalize l.inbox.take (stage.room responseTerms) = octets at cut took
      rw [cut, ← List.append_assoc] at start
      have knows' := Exchange.knows_feed (framed i k) knows took
        ((List.prefix_append _ _).trans start)
      generalize Exchange.feed responseTerms stage octets = state at knows'
      cases state with
      | reading stage' => exact tidy.read_more there here place last all cut knows'
      | complete response =>
        exact tidy.read_complete there here place last all cut knows'.1 knows'.2
      | failed fault => exact tidy.read_failed there place knows' fault
  · have same : w.client.readStep a = w.client := by
      unfold Client.readStep
      split
      · next payment requestedAt i stage there =>
        exact absurd ⟨payment, requestedAt, i, stage, there⟩ reads
      · rfl
    rw [same]
    exact tidy

end PaymentRelay.Processor.Watched
