import PaymentRelay.Proofs.Processor.Answers

/-!
# Requests stand where they were posted

What a processor answers, and whether it answers at all, has no part in what is written to it. For
any processor, a call that has read a response has posted its request; the request stands in its
place on the connection for good; and no two requests stand in one place. A call that is over stays
as it is.

Few things can happen to calls in a step, and `Stride` lists them. The invariant `Filed` is kept by
each of them.
-/

namespace PaymentRelay.Processor

/-- The call is finished or given up. -/
def Stage.isOver : Stage → Bool
  | .finished _ | .abandoned => true
  | .waiting _ | .dialing | .leased _ | .reading .. => false

namespace Client

/-- A connection has been made. -/
def Made (c : Client) (i : Nat) : Prop := ∃ l, c.links[i]? = some l

theorem Later.made {c c' : Client} (later : Later c c') {i : Nat} (made : c.Made i) :
    c'.Made i := by
  obtain ⟨l, there⟩ := made
  obtain ⟨l', there', -⟩ := later.links i l there
  exact ⟨l', there'⟩

theorem made_addLink (c : Client) : c.addLink.Made c.links.size := ⟨.new, Array.getElem?_push_size⟩

theorem mem_idle_giveBack {c : Client} {i j : Nat} (mem : j ∈ (c.giveBack i).pool.idle) :
    j ∈ c.pool.idle ∨ j = i := by
  rcases c.giveBack_cases i with ⟨put, -⟩ | ⟨same, -⟩
  · rw [put] at mem
    exact (List.mem_append.mp mem).imp_right List.mem_singleton.mp
  · rw [same] at mem
    exact Or.inl mem

end Client

namespace Watched

variable {w w' : Watched} {a b i k : Nat}

/-! ## The invariant -/

/-- What a call has posted by a stage. -/
def HasPosted (w : Watched) (a : Nat) : Stage → Prop
  | .waiting _ => w.posted a = none
  | .dialing => w.posted a = none
  | .leased i => w.posted a = none ∧ w.client.Made i
  | .reading _ _ => w.posted a ≠ none
  | .finished outcome => outcome = .taken → w.posted a ≠ none
  | .abandoned => True

/-- **The invariant.** -/
structure Filed (w : Watched) : Prop where
  line : w.client.line.Nodup
  waiting : ∀ a ∈ w.client.line, ∃ call deadline,
    w.client.calls[a]? = some call ∧ call.stage = .waiting deadline
  idle : ∀ i ∈ w.client.pool.idle, w.client.Made i
  stages : ∀ (a : Nat) (call : Call), w.client.calls[a]? = some call → w.HasPosted a call.stage
  posted : ∀ a i k, w.posted a = some (i, k) → w.Posted a i k
  once : ∀ a b place, w.posted a = some place → w.posted b = some place → a = b

theorem Filed.new (terms : Terms) (size : Nat) : (new terms size).Filed where
  line := List.nodup_nil
  waiting _ mem := by cases mem
  idle _ mem := by cases mem
  stages _ _ there := by cases there
  posted _ _ _ place := by cases place
  once _ _ _ place _ := by cases place

theorem HasPosted.of_later {stage : Stage} (later : w.client.Later w'.client)
    (posted : w'.posted a = w.posted a) (h : w.HasPosted a stage) : w'.HasPosted a stage := by
  cases stage with
  | waiting deadline => exact posted.trans h
  | dialing => exact posted.trans h
  | leased i => exact ⟨posted.trans h.1, later.made h.2⟩
  | reading i stage => exact fun none ↦ h (posted.symm.trans none)
  | finished outcome => exact fun taken none ↦ h taken (posted.symm.trans none)
  | abandoned => trivial

theorem Posted.of_later (later : w.client.Later w'.client) (h : w.Posted a i k) :
    w'.Posted a i k := by
  obtain ⟨call, l, there, here, request⟩ := h
  obtain ⟨stage, there'⟩ := later.calls a call there
  obtain ⟨l', here', request'⟩ := later.request here request
  refine ⟨{ call with stage }, l', there', here', ?_⟩
  rw [later.terms]
  exact request'

/-! ## What happens in a step -/

/-- The next request on a connection is that of a call. -/
def Posts (w w' : Watched) (call : Call) (i k : Nat) : Prop :=
  ∃ l l', w.client.links[i]? = some l ∧ k = l.sent.length ∧ w'.client.links[i]? = some l' ∧
    l'.sent = w.client.terms.request call :: l.sent

/-- What a step may do, as far as calls and their requests go. -/
inductive Stride (w w' : Watched) : Prop where
  /-- Only connections change. -/
  | links (calls : w'.client.calls = w.client.calls) (line : w'.client.line = w.client.line)
      (posted : w'.posted = w.posted)
      (idle : ∀ i ∈ w'.client.pool.idle, i ∈ w.client.pool.idle ∨ w'.client.Made i)
  /-- A call begins. -/
  | join (payment : Payment) (requestedAt : Millis) (deadline : Ticks)
      (calls : w'.client.calls = w.client.calls.push ⟨payment, requestedAt, .waiting deadline⟩)
      (line : w'.client.line = w.client.line ++ [w.client.calls.size])
      (posted : w'.posted = w.posted) (pool : w'.client.pool = w.client.pool)
  /-- A call that was not over goes over to another stage. -/
  | turn {a : Nat} {call : Call} {stage : Stage} (there : w.client.calls[a]? = some call)
      (active : call.stage.isOver = false)
      (calls : w'.client.calls = w.client.calls.modify a ({ · with stage }))
      (line : w'.client.line.Sublist w.client.line) (gone : a ∉ w'.client.line)
      (idle : ∀ i ∈ w'.client.pool.idle, i ∈ w.client.pool.idle ∨ w'.client.Made i)
      (others : ∀ b, b ≠ a → w'.posted b = w.posted b)
      (posted : ∀ i k, w'.posted a = some (i, k) → w.posted a = some (i, k) ∨ w.Posts w' call i k)
      (mine : w'.HasPosted a stage)

theorem Stride.refl (w : Watched) : Stride w w := .links rfl rfl rfl fun _ mem ↦ Or.inl mem

theorem Stride.calls_of_isOver (stride : Stride w w') {call : Call}
    (there : w.client.calls[a]? = some call) (ending : call.stage.isOver = true) :
    w'.client.calls[a]? = some call := by
  cases stride with
  | links calls => rw [calls, there]
  | join payment requestedAt deadline calls =>
    obtain ⟨within, -⟩ := Array.getElem?_eq_some_iff.mp there
    rw [calls, Array.getElem?_push, if_neg (Nat.ne_of_lt within), there]
  | @turn b other stage there' active calls =>
    by_cases same : b = a
    · subst same
      rw [there] at there'
      cases there'
      rw [ending] at active
      cases active
    · rw [calls, Array.getElem?_modify, if_neg same, there]

theorem Filed.not_in_line (filed : w.Filed) {call : Call} (there : w.client.calls[a]? = some call)
    (stage : ∀ deadline, call.stage ≠ .waiting deadline) : a ∉ w.client.line :=
  Client.not_mem_line filed.waiting there stage

theorem Filed.posted_of_none (filed : w.Filed) (unbegun : w.client.calls[a]? = none) :
    w.posted a = none := by
  by_contra some_
  obtain ⟨⟨i, k⟩, place⟩ := Option.ne_none_iff_exists'.mp some_
  obtain ⟨call, -, there, -⟩ := filed.posted a i k place
  rw [unbegun] at there
  cases there

theorem Posts.posted {call : Call} (new : w.Posts w' call i k)
    (there : w.client.calls[a]? = some call) (later : w.client.Later w'.client) :
    w'.Posted a i k := by
  obtain ⟨l, l', -, last, here', written⟩ := new
  obtain ⟨stage, there'⟩ := later.calls a call there
  refine ⟨{ call with stage }, l', there', here', ?_⟩
  rw [written, List.reverse_cons, last, ← List.length_reverse, List.getElem?_concat_length,
    later.terms]
  rfl

/-- A new request stands behind all others, so nobody else has posted there. -/
theorem Filed.fresh (filed : w.Filed) {call : Call} (new : w.Posts w' call i k) :
    w.posted b ≠ some (i, k) := by
  intro old
  obtain ⟨l, -, here, last, -, -⟩ := new
  obtain ⟨_, l', -, here', request⟩ := filed.posted b i k old
  rw [here] at here'
  cases here'
  obtain ⟨within, -⟩ := List.getElem?_eq_some_iff.mp request
  rw [List.length_reverse, last] at within
  exact Nat.lt_irrefl _ within

/-- If one call alone may have posted its request, no two requests stand in one place. -/
theorem Filed.once_of_posts (filed : w.Filed) {call : Call}
    (others : ∀ b, b ≠ a → w'.posted b = w.posted b)
    (posted : ∀ i k, w'.posted a = some (i, k) → w.posted a = some (i, k) ∨ w.Posts w' call i k)
    {b c : Nat} {place : Nat × Nat} (here : w'.posted b = some place)
    (here' : w'.posted c = some place) : b = c := by
  obtain ⟨i, k⟩ := place
  have apart {b : Nat} (ne : b ≠ a) (here : w'.posted a = some (i, k)) :
      w'.posted b ≠ some (i, k) := by
    rw [others b ne]
    rcases posted i k here with before | new
    · exact fun place ↦ ne (filed.once b a (i, k) place before)
    · exact filed.fresh new
  by_cases same : b = a
  · subst same
    by_contra ne
    exact apart (Ne.symm ne) here here'
  · by_cases same' : c = a
    · subst same'
      exact absurd here (apart same here')
    · rw [others b same] at here
      rw [others c same'] at here'
      exact filed.once b c (i, k) here here'

/-- **The invariant is kept**, whatever happens. -/
theorem Filed.of_stride (filed : w.Filed) (later : w.client.Later w'.client)
    (stride : Stride w w') : w'.Filed := by
  cases stride with
  | links calls line posted idle =>
    refine ⟨line ▸ filed.line, fun b mem ↦ ?_, fun i mem ↦ ?_, fun b call there ↦ ?_,
      fun b i k place ↦ ?_, fun b c place ↦ ?_⟩
    · rw [calls]
      exact filed.waiting b (line ▸ mem)
    · exact (idle i mem).elim (fun had ↦ later.made (filed.idle i had)) id
    · rw [calls] at there
      exact (filed.stages b call there).of_later later (congrFun posted b)
    · rw [posted] at place
      exact (filed.posted b i k place).of_later later
    · rw [posted]
      exact filed.once b c place
  | join payment requestedAt deadline calls line posted pool =>
    have old {b : Nat} {call : Call} (there : w.client.calls[b]? = some call) :
        w'.client.calls[b]? = some call ∧ b ≠ w.client.calls.size := by
      obtain ⟨within, -⟩ := Array.getElem?_eq_some_iff.mp there
      rw [calls, Array.getElem?_push, if_neg (Nat.ne_of_lt within), there]
      exact ⟨rfl, Nat.ne_of_lt within⟩
    refine ⟨?_, fun b mem ↦ ?_, fun i mem ↦ ?_, fun b call there ↦ ?_, fun b i k place ↦ ?_,
      fun b c place ↦ ?_⟩
    · rw [line, List.nodup_append]
      refine ⟨filed.line, List.pairwise_singleton _ _, fun b mem c mem' ↦ ?_⟩
      obtain ⟨call, -, there, -⟩ := filed.waiting b mem
      rw [List.mem_singleton.mp mem']
      exact (old there).2
    · rw [line] at mem
      rcases List.mem_append.mp mem with before | new
      · obtain ⟨call, deadline, there, waits⟩ := filed.waiting b before
        exact ⟨call, deadline, (old there).1, waits⟩
      · rw [List.mem_singleton.mp new, calls]
        exact ⟨_, _, Array.getElem?_push_size, rfl⟩
    · rw [pool] at mem
      exact later.made (filed.idle i mem)
    · rw [calls, Array.getElem?_push] at there
      by_cases last : b = w.client.calls.size
      · rw [if_pos last] at there
        cases there
        rw [last]
        exact (congrFun posted _).trans (filed.posted_of_none Array.getElem?_size)
      · rw [if_neg last] at there
        exact (filed.stages b call there).of_later later (congrFun posted b)
    · rw [posted] at place
      exact (filed.posted b i k place).of_later later
    · rw [posted]
      exact filed.once b c place
  | @turn a call stage there active calls line gone idle others posted mine =>
    refine ⟨line.nodup filed.line, fun b mem ↦ ?_, fun i mem ↦ ?_, fun b other there' ↦ ?_,
      fun b i k place ↦ ?_, fun b c place here here' ↦ ?_⟩
    · obtain ⟨other, deadline, there', waits⟩ := filed.waiting b (line.mem mem)
      have ne : a ≠ b := fun same ↦ gone (same ▸ mem)
      rw [calls, Array.getElem?_modify, if_neg ne]
      exact ⟨other, deadline, there', waits⟩
    · exact (idle i mem).elim (fun had ↦ later.made (filed.idle i had)) id
    · rw [calls, Array.getElem?_modify] at there'
      by_cases same : a = b
      · subst same
        rw [if_pos rfl, there] at there'
        cases there'
        exact mine
      · rw [if_neg same] at there'
        exact (filed.stages b other there').of_later later (others b (Ne.symm same))
    · by_cases same : b = a
      · subst same
        rcases posted i k place with before | new
        · exact (filed.posted b i k before).of_later later
        · exact new.posted there later
      · rw [others b same] at place
        exact (filed.posted b i k place).of_later later
    · exact filed.once_of_posts others posted here here'

/-! ## What each step does

A part of a step may have changed connections before a call goes over to another stage; `c` is the
client as that part leaves it, with the calls, the line and the pool that `w` has. -/

section Strides

variable {c : Client} (calls : c.calls = w.client.calls) (line : c.line = w.client.line)
  (pool : c.pool = w.client.pool)
include calls line pool

theorem stride_addLink :
    Stride w ⟨c.addLink.giveBack c.links.size, w.arrived, w.posted⟩ := by
  refine .links ((Client.giveBack_calls ..).trans calls) ((Client.giveBack_line ..).trans line)
    rfl fun i mem ↦ ?_
  rcases Client.mem_idle_giveBack mem with had | rfl
  · exact Or.inl (pool ▸ had)
  · exact Or.inr ((Client.later_giveBack _ _).made c.made_addLink)

theorem Filed.stride_fail (filed : w.Filed) {call : Call} {stage : Stage}
    (there : w.client.calls[a]? = some call) (held : call.stage.link? = some i)
    (mine : HasPosted ⟨c.fail a i stage, w.arrived, w.posted⟩ a stage) :
    Stride w ⟨c.fail a i stage, w.arrived, w.posted⟩ := by
  have holds : (∀ deadline, call.stage ≠ .waiting deadline) ∧ call.stage.isOver = false := by
    cases stage : call.stage <;> simp_all [Stage.link?, Stage.isOver]
  have out := filed.not_in_line there holds.1
  refine .turn there holds.2 (calls ▸ Client.fail_calls ..) ?_ (line.symm ▸ out)
    (fun _ mem ↦ Or.inl (pool ▸ mem)) (fun _ _ ↦ rfl) (fun _ _ place ↦ Or.inl place) mine
  exact line ▸ List.Sublist.refl _

theorem Filed.stride_proceed (filed : w.Filed) (made : c.Made i) {call : Call}
    {stage : Exchange.Stage} (there : w.client.calls[a]? = some call)
    (reads : call.stage = .reading i stage) (state : Exchange.State) :
    Stride w ⟨c.proceed a i state, w.arrived, w.posted⟩ := by
  have posted : w.posted a ≠ none := by
    have before := filed.stages a call there
    rw [reads] at before
    exact before
  have out := filed.not_in_line there fun deadline waits ↦ by simp [waits] at reads
  have active : call.stage.isOver = false := by rw [reads]; rfl
  cases state with
  | reading stage' =>
    have mine : HasPosted ⟨c.setStage a (.reading i stage'), w.arrived, w.posted⟩ a
      (.reading i stage') := posted
    exact .turn there active (calls ▸ Client.setStage_calls ..) (line ▸ List.Sublist.refl _)
      (line.symm ▸ out) (fun _ mem ↦ Or.inl (pool ▸ mem)) (fun _ _ ↦ rfl)
      (fun _ _ place ↦ Or.inl place) mine
  | complete response =>
    have calls' := (c.giveBack_calls i).trans calls
    have line' := (c.giveBack_line i).trans line
    have mine : HasPosted ⟨(c.giveBack i).setStage a (.finished (outcomeOf response.answer)),
      w.arrived, w.posted⟩ a (.finished (outcomeOf response.answer)) := fun _ ↦ posted
    refine .turn there active (calls' ▸ Client.setStage_calls ..) ?_ (line'.symm ▸ out)
      (fun j mem ↦ ?_) (fun _ _ ↦ rfl) (fun _ _ place ↦ Or.inl place) mine
    · exact line' ▸ List.Sublist.refl _
    · rcases Client.mem_idle_giveBack mem with had | rfl
      · exact Or.inl (pool ▸ had)
      · exact Or.inr ((Client.later_giveBack c j).made made)
  | failed fault =>
    exact filed.stride_fail calls line pool there (by rw [reads]; rfl) fun taken ↦ by cases taken

end Strides

theorem Filed.stride_lease (filed : w.Filed) : Stride w (w.step .lease) := by
  have client : w.step .lease = ⟨w.client.leaseStep, w.arrived, w.posted⟩ := rfl
  rw [client, Client.leaseStep]
  split
  · next a line i idle first front =>
    obtain ⟨call, deadline, there, waits⟩ := filed.waiting a (first ▸ List.mem_cons_self)
    have unposted := filed.stages a call there
    have nodup := filed.line
    rw [waits] at unposted
    rw [first] at nodup
    refine .turn there (by rw [waits]; rfl) (Client.setStage_calls ..) ?_
      (List.nodup_cons.mp nodup).1 (fun j mem ↦ Or.inl ?_) (fun _ _ ↦ rfl)
      (fun _ _ place ↦ Or.inl place) ⟨unposted, filed.idle i (front ▸ List.mem_cons_self)⟩
    · rw [first]
      exact List.sublist_cons_self a line
    · rw [front]
      exact List.mem_cons_of_mem i mem
  · exact .refl w

theorem Filed.stride_expire (filed : w.Filed) (a : Nat) : Stride w (w.step (.expire a)) := by
  have client : w.step (.expire a) = ⟨w.client.expireStep a, w.arrived, w.posted⟩ := rfl
  rw [client, Client.expireStep]
  split
  · next payment requestedAt deadline there =>
    exact .turn there rfl (Client.setStage_calls ..) List.erase_sublist
      filed.line.not_mem_erase (fun _ mem ↦ Or.inl mem) (fun _ _ ↦ rfl)
      (fun _ _ place ↦ Or.inl place) (filed.stages a _ there)
  · exact .refl w

theorem Filed.stride_dial (filed : w.Filed) (a : Nat) (failure : Option Transport.Fault) :
    Stride w (w.step (.dialed a failure)) := by
  have client : w.step (.dialed a failure) = ⟨w.client.dialStep a failure, w.arrived, w.posted⟩ :=
    rfl
  rw [client]
  unfold Client.dialStep
  split
  · next payment requestedAt there =>
    have unposted : w.posted a = none := filed.stages a _ there
    have out : a ∉ w.client.line := filed.not_in_line there fun _ waits ↦ by cases waits
    cases failure with
    | none =>
      exact .turn there rfl (Client.setStage_calls ..) (List.Sublist.refl _) out
        (fun _ mem ↦ Or.inl mem) (fun _ _ ↦ rfl) (fun _ _ place ↦ Or.inl place)
        ⟨unposted, w.client.made_addLink⟩
    | some fault =>
      exact .turn there rfl (Client.setStage_calls ..) (List.Sublist.refl _) out
        (fun _ mem ↦ Or.inl mem) (fun _ _ ↦ rfl) (fun _ _ place ↦ Or.inl place)
        fun taken ↦ by cases taken
  · exact .refl w

theorem Filed.stride_abandon (filed : w.Filed) (a : Nat) : Stride w (w.step (.abandon a)) := by
  have client : w.step (.abandon a) = ⟨w.client.abandonStep a, w.arrived, w.posted⟩ := rfl
  rw [client, Client.abandonStep]
  split
  · next payment requestedAt deadline there =>
    exact .turn there rfl (Client.setStage_calls ..) List.erase_sublist
      filed.line.not_mem_erase (fun _ mem ↦ Or.inl mem) (fun _ _ ↦ rfl)
      (fun _ _ place ↦ Or.inl place) trivial
  · next payment requestedAt there =>
    exact .turn there rfl (Client.setStage_calls ..) (List.Sublist.refl _)
      (filed.not_in_line there fun _ waits ↦ by cases waits) (fun _ mem ↦ Or.inl mem)
      (fun _ _ ↦ rfl) (fun _ _ place ↦ Or.inl place) trivial
  · next payment requestedAt i there => exact filed.stride_fail rfl rfl rfl there rfl trivial
  · next payment requestedAt i stage there => exact filed.stride_fail rfl rfl rfl there rfl trivial
  · exact .refl w

theorem stride_replace (w : Watched) (made : Bool) : Stride w (w.step (.replaced made)) := by
  have client : w.step (.replaced made) = ⟨w.client.replaceStep made, w.arrived, w.posted⟩ := rfl
  rw [client, Client.replaceStep]
  by_cases none : w.client.replacements = 0
  · rw [if_pos none]
    exact .refl w
  · rw [if_neg none]
    cases made with
    | false => exact .links rfl rfl rfl fun _ mem ↦ Or.inl mem
    | true => exact stride_addLink rfl rfl rfl

theorem Filed.stride_write (filed : w.Filed) (a : Nat) (failure : Option Transport.Fault) :
    Stride w (w.step (.write a failure)) := by
  cases failure with
  | some fault =>
    have client : w.step (.write a (some fault))
        = ⟨w.client.writeStep a (some fault), w.arrived, w.posted⟩ := rfl
    rw [client]
    unfold Client.writeStep
    split
    · next payment requestedAt i there =>
      exact filed.stride_fail rfl rfl rfl there rfl fun taken ↦ by cases taken
    · exact .refl w
  | none =>
    have client : w.step (.write a none) = ⟨w.client.writeStep a none, w.arrived,
        fun b ↦ if b = a then w.client.place? a <|> w.posted b else w.posted b⟩ := rfl
    rw [client]
    rcases write_cases w.client a with ⟨payment, requestedAt, i, there, place, next⟩ | ⟨place, same⟩
    · obtain ⟨unposted, l, here⟩ := filed.stages a _ there
      have written : (w.client.links.modify i fun l ↦ { l with
          sent := w.client.terms.request ⟨payment, requestedAt, .leased i⟩ :: l.sent })[i]?
            = some { l with
              sent := w.client.terms.request ⟨payment, requestedAt, .leased i⟩ :: l.sent } := by
        rw [Array.getElem?_modify, if_pos rfl, here, Option.map_some]
      have out : a ∉ w.client.line := filed.not_in_line there fun _ waits ↦ by cases waits
      rw [here, Option.map_some] at place
      rw [next, place]
      refine .turn there rfl (Client.setStage_calls ..) (List.Sublist.refl _) out
        (fun _ mem ↦ Or.inl mem) (fun b ne ↦ if_neg ne) (fun j k new ↦ Or.inr ?_) ?_
      · have new : some (i, l.sent.length) = some (j, k) := (if_pos rfl).symm.trans new
        cases new
        exact ⟨l, _, here, rfl, written, rfl⟩
      · intro none_
        cases (if_pos rfl).symm.trans none_
    · have posted : (fun b ↦ if b = a then w.client.place? a <|> w.posted b else w.posted b)
          = w.posted := by
        funext b
        rw [place]
        split <;> rfl
      rw [same, posted]
      exact .refl w

theorem Filed.stride_read (filed : w.Filed) (a : Nat) : Stride w (w.step (.read a)) := by
  have client : w.step (.read a) = ⟨w.client.readStep a, w.arrived, w.posted⟩ := rfl
  rw [client, Client.readStep]
  split
  · next payment requestedAt i stage there =>
    split
    · next link here =>
      split
      · exact .refl w
      · exact filed.stride_proceed rfl rfl rfl ⟨link, here⟩ there rfl _
      · next octets _ =>
        have made := (later_drained w.client i octets.length).made ⟨link, here⟩
        exact filed.stride_proceed (c := drained w.client i octets.length) rfl rfl rfl made there
          rfl _
    · exact .refl w
  · exact .refl w

/-- **Every step is a stride.** -/
theorem Filed.stride (filed : w.Filed) (event : Client.Event) : Stride w (w.step event) := by
  cases event with
  | call payment requestedAt now => exact .join payment requestedAt _ rfl rfl rfl rfl
  | warmed => exact stride_addLink rfl rfl rfl
  | lease => exact filed.stride_lease
  | expire call => exact filed.stride_expire call
  | dialed call failure => exact filed.stride_dial call failure
  | replaced made => exact stride_replace w made
  | write call failure => exact filed.stride_write call failure
  | read call => exact filed.stride_read call
  | abandon call => exact filed.stride_abandon call
  | _ => exact .links rfl rfl rfl fun _ mem ↦ Or.inl mem

theorem Filed.step (filed : w.Filed) (event : Client.Event) : (w.step event).Filed :=
  filed.of_stride (Client.later_step w.client event) (filed.stride event)

end Watched

end PaymentRelay.Processor
