import PaymentRelay.Proofs.Processor.Ownership
import PaymentRelay.Proofs.Processor.Watch

/-!
# Every connection is where it should be in its conversation

The invariant of the calls to a processor. A connection that is idle, or with a call that has not
written its request, has nothing outstanding: all requests on it are answered, and the answers have
been read to the last octet. A call that reads has posted the last request on its connection, and
what has been read since is the beginning of the response to it. Since nobody shares a connection,
nothing that others do disturbs this.

`Tidy` is the invariant; `Tidy.turn` says what has to be shown when one call goes over to another
stage.
-/

namespace PaymentRelay

/-- What a call comes to that has been told no status. -/
def ProcessorOutcome.Untold : ProcessorOutcome → Prop
  | .refused (.transport _) => True
  | .refused (.malformed _) => True
  | _ => False

theorem ProcessorOutcome.Untold.of_transport (fault : Transport.Fault) :
    (ProcessorOutcome.refused (.ofTransport fault)).Untold := by
  rw [ProcessorFault.ofTransport]
  split <;> exact trivial

namespace Processor.Watched

open Exchange (statusOf?)

variable {script : Script} {w w' : Watched} {a b i k : Nat}

/-! ## The invariant -/

/-- All requests on a connection have been answered, and all answers have been read. -/
def Clean (script : Script) (w : Watched) (i : Nat) : Prop :=
  ∃ l, w.client.links[i]? = some l ∧ l.inbox = [] ∧ w.arrived i = script.upTo i l.sent.length

/-- A call has posted the last request on a connection and knows so much of the response. -/
def Busy (script : Script) (w : Watched) (a i : Nat) (stage : Exchange.Stage) : Prop :=
  ∃ l k read, w.client.links[i]? = some l ∧ w.posted a = some (i, k) ∧ l.sent.length = k + 1 ∧
    w.arrived i = script.upTo i k ++ (read ++ l.inbox) ∧ stage.Knows (script i k) read

/-- The response to a request will never arrive completely. -/
def Cut (script : Script) (w : Watched) (i k : Nat) : Prop :=
  ∃ l, w.client.links[i]? = some l ∧ l.ending.isSome = true ∧ ¬ w.Received script i k

/-- A call that is over has come to what the response to its request says, or has failed because
there was none. -/
def Settled (script : Script) (w : Watched) (a : Nat) (outcome : ProcessorOutcome) : Prop :=
  (∃ i k answer, w.posted a = some (i, k) ∧ w.Received script i k ∧
    statusOf? (script i k) = some answer.status ∧ outcome = outcomeOf answer) ∨
  (outcome.Untold ∧ ∀ i k, w.posted a = some (i, k) →
    statusOf? (script i k) = none ∨ w.Cut script i k)

/-- A call is in order at a stage. -/
def InOrder (script : Script) (w : Watched) (a : Nat) : Stage → Prop
  | .waiting _ => w.posted a = none
  | .dialing => w.posted a = none
  | .leased i => w.posted a = none ∧ w.Clean script i
  | .reading i stage => w.Busy script a i stage
  | .finished outcome => w.Settled script a outcome
  | .abandoned => True

/-- **The invariant.** -/
structure Tidy (script : Script) (w : Watched) : Prop where
  /-- Nobody shares a connection. -/
  kept : w.client.kept.Nodup
  line : w.client.line.Nodup
  waiting : ∀ a ∈ w.client.line, ∃ call deadline,
    w.client.calls[a]? = some call ∧ call.stage = .waiting deadline
  /-- What has arrived belongs to responses that are due. -/
  due : ∀ (i : Nat) (l : Link), w.client.links[i]? = some l →
    w.arrived i <+: script.upTo i l.sent.length
  /-- Nothing arrives on a connection that is not there. -/
  unmade : ∀ i, w.client.links[i]? = none → w.arrived i = []
  idle : ∀ i ∈ w.client.pool.idle, w.Clean script i
  calls : ∀ (a : Nat) (call : Call), w.client.calls[a]? = some call →
    w.InOrder script a call.stage
  /-- A request stands where it was posted. -/
  posted : ∀ a i k, w.posted a = some (i, k) → ∃ call l, w.client.calls[a]? = some call ∧
    w.client.links[i]? = some l ∧ l.sent.reverse[k]? = some (w.client.terms.request call)
  /-- Two calls never post their requests in the same place. -/
  once : ∀ a b place, w.posted a = some place → w.posted b = some place → a = b

/-! ## What others do -/

theorem Clean.of_same (links : w'.client.links[i]? = w.client.links[i]?)
    (arrived : w'.arrived i = w.arrived i) (h : w.Clean script i) : w'.Clean script i := by
  obtain ⟨l, there, empty, all⟩ := h
  exact ⟨l, links.trans there, empty, arrived.trans all⟩

theorem Received.of_prefix (arrived : w.arrived i <+: w'.arrived i)
    (h : w.Received script i k) : w'.Received script i k := h.trans arrived

/-- What a call that is over has come to stands, whatever else arrives. -/
theorem Settled.of_later {outcome : ProcessorOutcome} (later : w.client.Later w'.client)
    (arrived : ∀ i, w.arrived i <+: w'.arrived i)
    (past : ∀ (i : Nat) (l : Link), w.client.links[i]? = some l → l.ending.isSome = true →
      w'.arrived i = w.arrived i)
    (posted : w'.posted a = w.posted a) (h : w.Settled script a outcome) :
    w'.Settled script a outcome := by
  rcases h with ⟨i, k, answer, place, received, told, came⟩ | ⟨failed, place⟩
  · exact Or.inl ⟨i, k, answer, posted.trans place, received.of_prefix (arrived i), told, came⟩
  · refine Or.inr ⟨failed, fun i k place' ↦ ?_⟩
    rcases place i k (posted.symm.trans place') with none | ⟨l, there, ended, missing⟩
    · exact Or.inl none
    · obtain ⟨l', there', -, ended'⟩ := later.links i l there
      refine Or.inr ⟨l', there', ended' ended, fun received ↦ missing ?_⟩
      rw [Received, past i l there ended] at received
      exact received

theorem InOrder.of_same {stage : Stage} (later : w.client.Later w'.client)
    (arrived : w'.arrived = w.arrived) (posted : w'.posted a = w.posted a)
    (links : ∀ i, stage.link? = some i → w'.client.links[i]? = w.client.links[i]?)
    (h : w.InOrder script a stage) : w'.InOrder script a stage := by
  cases stage with
  | waiting => exact posted.trans h
  | dialing => exact posted.trans h
  | leased i => exact ⟨posted.trans h.1, h.2.of_same (links i rfl) (congrFun arrived i)⟩
  | reading i stage =>
    obtain ⟨l, k, read, there, place, last, all, knows⟩ := h
    exact ⟨l, k, read, (links i rfl).trans there, posted.trans place, last,
      (congrFun arrived i).trans all, knows⟩
  | finished outcome =>
    refine h.of_later later (fun i ↦ ?_) (fun i _ _ _ ↦ congrFun arrived i) posted
    rewrite [arrived]
    exact List.prefix_refl _
  | abandoned => trivial

theorem Tidy.due_of_later (tidy : w.Tidy script) (later : w.client.Later w'.client)
    (arrived : w'.arrived = w.arrived) (i : Nat) (l : Link)
    (there : w'.client.links[i]? = some l) : w'.arrived i <+: script.upTo i l.sent.length := by
  rw [arrived]
  cases before : w.client.links[i]? with
  | none =>
    rw [tidy.unmade i before]
    exact List.nil_prefix
  | some l' =>
    obtain ⟨l'', there', sent, -⟩ := later.links i l' before
    rw [there] at there'
    cases there'
    exact (tidy.due i l' before).trans (script.upTo_prefix i sent.length_le)

theorem Tidy.posted_of_later (tidy : w.Tidy script) (later : w.client.Later w'.client)
    (place : w.posted a = some (i, k)) : ∃ call l, w'.client.calls[a]? = some call ∧
      w'.client.links[i]? = some l ∧
      l.sent.reverse[k]? = some (w'.client.terms.request call) := by
  obtain ⟨call, l, there, here, request⟩ := tidy.posted a i k place
  obtain ⟨stage, there'⟩ := later.calls a call there
  obtain ⟨l', here', request'⟩ := later.request here request
  rw [later.terms]
  exact ⟨{ call with stage }, l', there', here', request'⟩

theorem Tidy.made_of_kept (tidy : w.Tidy script) (mem : i ∈ w.client.kept) :
    ∃ l, w.client.links[i]? = some l := by
  rcases List.mem_append.mp mem with idle | held
  · obtain ⟨l, there, -⟩ := tidy.idle i idle
    exact ⟨l, there⟩
  · obtain ⟨call, mem, held⟩ := List.mem_filterMap.mp held
    obtain ⟨a, there⟩ := Array.mem_iff_getElem?.mp (Array.mem_toList_iff.mp mem)
    have order := tidy.calls a call there
    cases stage : call.stage with
    | leased j =>
      rw [stage] at held order
      cases held
      obtain ⟨-, l, there, -⟩ := order
      exact ⟨l, there⟩
    | reading j reader =>
      rw [stage] at held order
      cases held
      obtain ⟨l, _, _, there, -⟩ := order
      exact ⟨l, there⟩
    | _ =>
      rw [stage] at held
      cases held

theorem Tidy.owned (tidy : w.Tidy script) : Client.Owned w.client where
  kept := tidy.kept
  made i mem := by
    obtain ⟨l, there⟩ := tidy.made_of_kept mem
    exact (Array.getElem?_eq_some_iff.mp there).1
  line := tidy.line
  waiting := tidy.waiting

/-! ## One call goes over to another stage -/

/-- **A call has its turn.** What is left to show when a call goes over to another stage and
connections are handed over: it leaves the connections of others alone, what it gives to the pool is
clean, it posts its request behind those that are there, and it is in order itself. -/
theorem Tidy.turn {call : Call} {stage : Stage} (tidy : w.Tidy script)
    (there : w.client.calls[a]? = some call)
    (calls : w'.client.calls = w.client.calls.modify a ({ · with stage }))
    (later : w.client.Later w'.client) (handover : w.client.Handover w'.client)
    (arrived : w'.arrived = w.arrived)
    (links : ∀ i ∈ w.client.kept, call.stage.link? ≠ some i →
      w'.client.links[i]? = w.client.links[i]?)
    (idle : ∀ i ∈ w'.client.pool.idle, i ∉ w.client.pool.idle → w'.Clean script i)
    (others : ∀ b, b ≠ a → w'.posted b = w.posted b)
    (posted : ∀ i k, w'.posted a = some (i, k) → w.posted a = some (i, k) ∨
      ∃ l l', w.client.links[i]? = some l ∧ k = l.sent.length ∧ w'.client.links[i]? = some l' ∧
        l'.sent = w.client.terms.request call :: l.sent)
    (mine : w'.InOrder script a stage) : w'.Tidy script where
  kept := handover.owned.kept
  line := handover.owned.line
  waiting := handover.owned.waiting
  due := tidy.due_of_later later arrived
  unmade i none_ := by
    rw [arrived]
    exact tidy.unmade i (later.unmade none_)
  idle i mem := by
    -- what was idle is with nobody, so the call has not touched it
    by_cases had : i ∈ w.client.pool.idle
    · refine (tidy.idle i had).of_same (links i (List.mem_append_left _ had) ?_)
        (congrFun arrived i)
      exact fun held ↦ Client.not_idle_of_held tidy.kept there held had
    · exact idle i mem had
  calls b other there' := by
    rw [calls, Array.getElem?_modify] at there'
    split at there'
    · next same =>
      subst same
      rw [there] at there'
      cases there'
      exact mine
    · next ne =>
      refine (tidy.calls b other there').of_same later arrived (others b (Ne.symm ne)) ?_
      intro i held
      refine links i (Client.held_mem_kept there' held) fun held' ↦ ne ?_
      exact Client.eq_of_held tidy.kept there there' held' held
  posted b i k place := by
    by_cases same : b = a
    · subst same
      rcases posted i k place with before | ⟨l, l', here, last, here', written⟩
      · exact tidy.posted_of_later later before
      · obtain ⟨stage', there'⟩ := later.calls b call there
        refine ⟨{ call with stage := stage' }, l', there', here', ?_⟩
        rw [written, List.reverse_cons, last, ← List.length_reverse, List.getElem?_concat_length,
          later.terms]
        rfl
    · rw [others b same] at place
      exact tidy.posted_of_later later place
  once b b' place here here' := by
    -- a new request stands behind all others, where nobody has posted
    have fresh : ∀ b, b ≠ a → ∀ i k, w'.posted a = some (i, k) → w'.posted b ≠ some (i, k) := by
      intro b ne i k new old
      rw [others b ne] at old
      rcases posted i k new with before | ⟨l, -, there', last, -, -⟩
      · exact ne (tidy.once b a (i, k) old before)
      · obtain ⟨_, l', -, there'', request⟩ := tidy.posted b i k old
        rw [there'] at there''
        cases there''
        obtain ⟨within, -⟩ := List.getElem?_eq_some_iff.mp request
        rw [List.length_reverse, last] at within
        exact Nat.lt_irrefl _ within
    by_cases same : b = a
    · subst same
      by_cases same' : b' = b
      · exact same'.symm
      · exact absurd here' (fresh b' same' place.1 place.2 here)
    · by_cases same' : b' = a
      · subst same'
        exact absurd here (fresh b same place.1 place.2 here')
      · rw [others b same] at here
        rw [others b' same'] at here'
        exact tidy.once b b' place here here'

theorem Tidy.turn_within {call : Call} {stage : Stage} (tidy : w.Tidy script)
    (there : w.client.calls[a]? = some call)
    (calls : w'.client.calls = w.client.calls.modify a ({ · with stage }))
    (later : w.client.Later w'.client) (handover : w.client.Handover w'.client)
    (arrived : w'.arrived = w.arrived) (pool : w'.client.pool = w.client.pool)
    (links : ∀ i, call.stage.link? ≠ some i → w'.client.links[i]? = w.client.links[i]?)
    (posted : w'.posted = w.posted) (mine : w'.InOrder script a stage) : w'.Tidy script :=
  tidy.turn there calls later handover arrived (fun i _ ↦ links i)
    (fun _ mem new ↦ absurd (pool ▸ mem) new) (fun b _ ↦ congrFun posted b)
    (fun _ _ place ↦ Or.inl ((congrFun posted a).symm.trans place)) mine

theorem Tidy.fail (tidy : w.Tidy script) {call : Call} {stage : Stage}
    (there : w.client.calls[a]? = some call) (held : call.stage.link? = some i)
    (free : stage.link? = none)
    (mine : InOrder script ⟨w.client.fail a i stage, w.arrived, w.posted⟩ a stage) :
    Tidy script ⟨w.client.fail a i stage, w.arrived, w.posted⟩ := by
  refine tidy.turn_within there (Client.fail_calls ..) (Client.later_fail ..)
    (tidy.owned.fail there held free) rfl rfl ?_ rfl mine
  intro j other
  have ne : i ≠ j := fun same ↦ other (same ▸ held)
  rw [Client.fail_links, Array.getElem?_modify, if_neg ne]

end Processor.Watched

end PaymentRelay
