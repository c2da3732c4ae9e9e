import Mathlib.Algebra.GroupWithZero.Nat
import Mathlib.Data.List.Range
import PaymentRelay.Proofs.Lists.Modify
import PaymentRelay.Retry.Callers

/-!
# The account of a shared queue

What the queue has accepted was taken out in batches or still waits, all in the order in which it
came. What it has dropped has the numbers from one up to the count, each for one call, whoever
counts when; that is why each power of two that the count reaches is reported once, by the call that
has it for its number.

`Account` says this of one state and of what was seen before it. Each event has a lemma that it
keeps the account, and the run follows by induction on the events.
-/

namespace PaymentRelay.RetryQueue

variable {α : Type}

theorem isMilestone_iff {n : Nat} : isMilestone n = true ↔ ∃ k, n = 2 ^ k := by
  rw [isMilestone, Bool.and_eq_true, decide_eq_true_eq, decide_eq_true_eq]
  constructor
  · rintro ⟨-, power⟩
    exact ⟨n.log2, power.symm⟩
  · rintro ⟨k, rfl⟩
    refine ⟨Nat.ne_of_gt (Nat.two_pow_pos k), ?_⟩
    rw [Nat.log2_two_pow]
    rfl

theorem toList_drain (q : RetryQueue α) (n : Nat) :
    (q.drain n).1.toList = q.entries.toList.take n ∧
      (q.drain n).2.entries.toList = q.entries.toList.drop n := by
  constructor
  · rw [drain, Array.toList_extract, List.extract_eq_take_drop, List.drop_zero, Nat.sub_zero]
  · rw [drain, Array.toList_extract, List.extract_eq_take_drop]
    refine List.take_of_length_le (Nat.le_of_eq ?_)
    rw [List.length_drop, Array.length_toList, size]

theorem enqueue_of_full {q : RetryQueue α} (full : q.isFull = true) (entry : α) :
    q.enqueue entry = q.countDrop := if_pos full

theorem enqueue_of_not_full {q : RetryQueue α} (room : ¬ q.isFull = true) (entry : α) :
    q.enqueue entry = { q with entries := q.entries.push entry } := if_neg room

/-! ## What there is to see -/

/-- The entry of a call, if the queue has taken it. -/
def Call.accepted? (call : Call α) : Option α :=
  match call.progress with
  | .accepted => some call.entry
  | _ => none

/-- The number of a call among the dropped, once it is counted. -/
def Call.number? (call : Call α) : Option Nat :=
  match call.progress with
  | .counted n | .told n => some n
  | _ => none

/-- The number of a call among the dropped, once the caller has been told. -/
def Call.told? (call : Call α) : Option Nat :=
  match call.progress with
  | .told n => some n
  | _ => none

namespace Shared

/-- What the queue has taken, in order. -/
def accepted (s : Shared α) : List α := s.calls.toList.filterMap Call.accepted?

/-- The numbers that calls have among the dropped. -/
def numbers (s : Shared α) : List Nat := s.calls.toList.filterMap Call.number?

/-- The numbers of the calls whose callers have been told that their entries were dropped. -/
def told (s : Shared α) : List Nat := s.calls.toList.filterMap Call.told?

end Shared

def Effect.entries : Effect α → List α
  | .drained batch => batch.toList
  | .reported _ => []

/-- The text that was reported. -/
def Effect.text? : Effect α → Option String
  | .reported text => some text
  | .drained _ => none

/-- The entries that were taken out, batch after batch. -/
def drained (seen : List (Effect α)) : List α := seen.flatMap Effect.entries

def reports (seen : List (Effect α)) : List String := seen.filterMap Effect.text?

theorem drained_append (seen more : List (Effect α)) :
    drained (seen ++ more) = drained seen ++ drained more := List.flatMap_append

theorem reports_append (seen more : List (Effect α)) :
    reports (seen ++ more) = reports seen ++ reports more := List.filterMap_append

section Views

variable {β : Type} (view : Call α → Option β) {s s' : Shared α} {call : Nat} {c : Call α}
  {progress : Progress}

theorem filterMap_push (calls : Array (Call α)) (c : Call α) :
    (calls.push c).toList.filterMap view = calls.toList.filterMap view ++ (view c).toList := by
  rw [Array.toList_push, List.filterMap_append, List.filterMap_eq_flatMap_toList view [c],
    List.flatMap_singleton]

theorem filterMap_of_eq (went : s'.calls = s.calls.modify call ({ · with progress }))
    (there : s.calls[call]? = some c) (same : view { c with progress } = view c) :
    s'.calls.toList.filterMap view = s.calls.toList.filterMap view := by
  rw [← Array.getElem?_toList] at there
  rw [went, Array.toList_modify]
  exact filterMap_modify_of_eq there same

theorem filterMap_perm {b : β} (went : s'.calls = s.calls.modify call ({ · with progress }))
    (there : s.calls[call]? = some c) (none_ : view c = none)
    (some_ : view { c with progress } = some b) :
    (s'.calls.toList.filterMap view).Perm (b :: s.calls.toList.filterMap view) := by
  rw [← Array.getElem?_toList] at there
  rw [went, Array.toList_modify]
  exact filterMap_modify_perm there none_ some_

end Views

/-! ## The account -/

/-- What holds of a queue for so many entries, of those who have come to it, and of what was
seen. -/
structure Account (capacity : Nat) (s : Shared α) (seen : List (Effect α)) : Prop where
  room : s.queue.capacity = capacity
  within : s.queue.size ≤ s.queue.capacity
  /-- What was accepted was taken or waits. -/
  order : s.accepted = drained seen ++ s.queue.entries.toList
  /-- Every number up to the count is that of one call. -/
  numbered : s.numbers.Perm (List.range' 1 s.queue.dropped)
  /-- Those who have been told have reported the milestones among their numbers. -/
  reported : (reports seen).Perm ((s.told.filter isMilestone).map (wording capacity))

namespace Account

variable {capacity : Nat} {s : Shared α} {seen : List (Effect α)} {call : Nat} {c : Call α}

theorem new (capacity : Nat) : Account capacity (Shared.new capacity : Shared α) [] where
  room := rfl
  within := Nat.zero_le _
  order := rfl
  numbered := .refl _
  reported := .refl _

theorem offer (account : Account capacity s seen) (entry : α) :
    Account capacity (s.offer entry) seen := by
  obtain ⟨room, within, order, numbered, reported⟩ := account
  have last (progress : Progress) (none_ : progress = .refused ∨ progress = .accepted) :
      Call.number? ⟨entry, progress⟩ = none ∧ Call.told? ⟨entry, progress⟩ = none := by
    rcases none_ with rfl | rfl <;> exact ⟨rfl, rfl⟩
  rw [Shared.offer]
  split
  · obtain ⟨number, told⟩ := last .refused (.inl rfl)
    constructor
    · exact room
    · exact within
    · rwa [Shared.accepted, filterMap_push, Call.accepted?, Option.toList_none, List.append_nil]
    · rwa [Shared.numbers, filterMap_push, number, Option.toList_none, List.append_nil]
    · rwa [Shared.told, filterMap_push, told, Option.toList_none, List.append_nil]
  · next free =>
    obtain ⟨number, told⟩ := last .accepted (.inr rfl)
    have fits := size_enqueue_le within entry
    rw [← capacity_enqueue s.queue entry] at fits
    rw [enqueue_of_not_full free] at fits ⊢
    constructor
    · exact room
    · exact fits
    · rw [Shared.accepted, filterMap_push, Call.accepted?, Option.toList_some, Array.toList_push,
        ← List.append_assoc, ← order]
      rfl
    · rwa [Shared.numbers, filterMap_push, number, Option.toList_none, List.append_nil]
    · rwa [Shared.told, filterMap_push, told, Option.toList_none, List.append_nil]

theorem count (account : Account capacity s seen) (there : s.calls[call]? = some c)
    (refused : c.progress = .refused) : Account capacity (s.count call) seen := by
  have went : (s.count call).calls
      = s.calls.modify call ({ · with progress := .counted s.queue.countDrop.dropped }) := rfl
  constructor
  · exact account.room
  · exact account.within
  · refine (filterMap_of_eq Call.accepted? went there ?_).trans account.order
    rw [Call.accepted?, Call.accepted?, refused]
  · -- the number that the call gets is the next
    refine (filterMap_perm Call.number? went there (by rw [Call.number?, refused]) rfl).trans ?_
    refine ((List.perm_cons _).mpr account.numbered).trans ?_
    have next : List.range' 1 (s.count call).queue.dropped
        = List.range' 1 s.queue.dropped ++ [s.queue.countDrop.dropped] := by
      rw [countDrop, Nat.add_comm s.queue.dropped 1, ← List.range'_1_concat]
      rfl
    rw [next]
    exact (List.perm_append_singleton _ _).symm
  · rw [Shared.told,
      filterMap_of_eq Call.told? went there (by rw [Call.told?, Call.told?, refused])]
    exact account.reported

theorem tell (account : Account capacity s seen) {n : Nat} (there : s.calls[call]? = some c)
    (counted : c.progress = .counted n) :
    Account capacity (s.setProgress call (.told n))
      (seen ++ ((s.reportFor n).map .reported).toList) := by
  have went : (s.setProgress call (.told n)).calls
      = s.calls.modify call ({ · with progress := .told n }) := rfl
  constructor
  · exact account.room
  · exact account.within
  · have none_ : drained (((s.reportFor n).map Effect.reported).toList : List (Effect α)) = [] := by
      rw [Shared.reportFor]
      split <;> rfl
    rw [drained_append, none_, List.append_nil]
    refine (filterMap_of_eq Call.accepted? went there ?_).trans account.order
    rw [Call.accepted?, Call.accepted?, counted]
  · rw [Shared.numbers,
      filterMap_of_eq Call.number? went there (by rw [Call.number?, Call.number?, counted])]
    exact account.numbered
  · -- the number that is told now is reported if it is a milestone
    have due : reports (((s.reportFor n).map Effect.reported).toList : List (Effect α))
        = ([n].filter isMilestone).map (wording capacity) := by
      rw [Shared.reportFor, account.room]
      by_cases milestone : isMilestone n = true <;> simp [reports, Effect.text?, milestone]
    have more : (s.setProgress call (.told n)).told.Perm ([n] ++ s.told) :=
      filterMap_perm Call.told? went there (by rw [Call.told?, counted]) rfl
    refine List.Perm.trans ?_ ((more.filter _).map _).symm
    rw [reports_append, due, List.filter_append, List.map_append]
    exact List.perm_append_comm.trans ((List.Perm.refl _).append account.reported)

theorem drain (account : Account capacity s seen) (n : Nat) :
    Account capacity { s with queue := (s.queue.drain n).2 }
      (seen ++ [.drained (s.queue.drain n).1]) := by
  obtain ⟨taken, left⟩ := toList_drain s.queue n
  constructor
  · exact account.room
  · exact (size_drain_le s.queue n).trans account.within
  · have batch : drained [Effect.drained (s.queue.drain n).1] = (s.queue.drain n).1.toList :=
      List.append_nil _
    rw [drained_append, batch, taken, left, List.append_assoc, List.take_append_drop]
    exact account.order
  · exact account.numbered
  · have none_ : reports [Effect.drained (s.queue.drain n).1] = [] := rfl
    rw [reports_append, none_, List.append_nil]
    exact account.reported

/-- **Each event keeps the account.** -/
theorem step (account : Account capacity s seen) (event : Event α) :
    Account capacity (s.step event).1 (seen ++ (s.step event).2) := by
  cases event with
  | offer entry =>
    rw [Shared.step, List.append_nil]
    exact account.offer entry
  | count call =>
    rw [Shared.step]
    split
    · next there =>
      obtain ⟨c, there, refused⟩ := Option.map_eq_some_iff.mp there
      rw [List.append_nil]
      exact account.count there refused
    · rwa [List.append_nil]
  | tell call =>
    rw [Shared.step]
    split
    · next n there =>
      obtain ⟨c, there, counted⟩ := Option.map_eq_some_iff.mp there
      exact account.tell there counted
    · rwa [List.append_nil]
  | drain n => exact account.drain n

theorem run (account : Account capacity s seen) (events : List (Event α)) :
    Account capacity (s.run events).1 (seen ++ (s.run events).2) := by
  induction events generalizing s seen with
  | nil =>
    rw [Shared.run, List.append_nil]
    exact account
  | cons event events ih =>
    rw [Shared.run, ← List.append_assoc]
    exact ih (account.step event)

end Account

/-! ## Calls in one go -/

theorem step_offer {s : Shared α} (within : s.queue.size ≤ s.queue.capacity) (entry : α) :
    s.step (.offer entry) =
      (if s.queue.size = s.queue.capacity then ⟨s.queue, s.calls.push ⟨entry, .refused⟩⟩
        else ⟨{ s.queue with entries := s.queue.entries.push entry },
          s.calls.push ⟨entry, .accepted⟩⟩, []) := by
  have full : s.queue.isFull = true ↔ s.queue.size = s.queue.capacity := by
    rw [isFull, decide_eq_true_eq]
    exact ⟨Nat.le_antisymm within, fun h ↦ Nat.le_of_eq h.symm⟩
  rw [Shared.step, Shared.offer]
  by_cases h : s.queue.isFull = true
  · rw [if_pos h, if_pos (full.mp h)]
  · rw [if_neg h, if_neg fun same ↦ h (full.mpr same), enqueue_of_not_full h]

theorem setProgress_push (q : RetryQueue α) (calls : Array (Call α)) (entry : α)
    (before after : Progress) :
    Shared.setProgress ⟨q, calls.push ⟨entry, before⟩⟩ calls.size after
      = ⟨q, calls.push ⟨entry, after⟩⟩ := by
  rw [Shared.setProgress, Shared.mk.injEq]
  refine ⟨rfl, Array.ext_getElem? fun i ↦ ?_⟩
  rw [Array.getElem?_modify, Array.getElem?_push, Array.getElem?_push]
  by_cases last : calls.size = i
  · simp [last]
  · rw [if_neg last]
    simp [Ne.symm last]

theorem progress_push (calls : Array (Call α)) (c : Call α) :
    ((calls.push c)[calls.size]?).map Call.progress = some c.progress := by
  rw [Array.getElem?_push_size, Option.map_some]

theorem step_count_push (q : RetryQueue α) (calls : Array (Call α)) (entry : α) :
    Shared.step ⟨q, calls.push ⟨entry, .refused⟩⟩ (.count calls.size)
      = (⟨q.countDrop, calls.push ⟨entry, .counted (q.dropped + 1)⟩⟩, []) := by
  rw [Shared.step, progress_push]
  exact congrArg (·, []) (setProgress_push q.countDrop calls entry .refused _)

theorem step_tell_push (q : RetryQueue α) (calls : Array (Call α)) (entry : α) (n : Nat) :
    Shared.step ⟨q, calls.push ⟨entry, .counted n⟩⟩ (.tell calls.size)
      = (⟨q, calls.push ⟨entry, .told n⟩⟩,
          if isMilestone n then [.reported (wording q.capacity n)] else []) := by
  rw [Shared.step, progress_push]
  simp only [setProgress_push, Shared.reportFor]
  split <;> rfl

/-- **A call in one go** does to the queue what `enqueue` does, whoever else is under way. Its entry
is accepted, or it gets the next number and reports it if it is a milestone. -/
theorem run_call (s : Shared α) (entry : α) :
    s.run [.offer entry, .count s.calls.size, .tell s.calls.size] =
      (⟨s.queue.enqueue entry, s.calls.push ⟨entry,
          if s.queue.isFull then .told (s.queue.dropped + 1) else .accepted⟩⟩,
        ((reportOf s.queue.dropped (s.queue.enqueue entry)).map .reported).toList) := by
  obtain ⟨q, calls⟩ := s
  by_cases full : q.isFull = true
  · have offered : Shared.step ⟨q, calls⟩ (.offer entry)
        = (⟨q, calls.push ⟨entry, .refused⟩⟩, []) := congrArg (·, []) (if_pos full)
    have due : reportOf q.dropped q.countDrop
        = if isMilestone (q.dropped + 1) then some (wording q.capacity (q.dropped + 1))
          else none := by
      simp [reportOf, countDrop, report]
    simp only [Shared.run, offered, step_count_push, step_tell_push, enqueue_of_full full, due,
      if_pos full]
    split <;> rfl
  · have offered : Shared.step ⟨q, calls⟩ (.offer entry)
        = (⟨q.enqueue entry, calls.push ⟨entry, .accepted⟩⟩, []) := congrArg (·, []) (if_neg full)
    have late (event : Event α) (its : event = .count calls.size ∨ event = .tell calls.size) :
        Shared.step ⟨q.enqueue entry, calls.push ⟨entry, .accepted⟩⟩ event
          = (⟨q.enqueue entry, calls.push ⟨entry, .accepted⟩⟩, []) := by
      rcases its with rfl | rfl <;> rw [Shared.step, progress_push]
    simp only [Shared.run, offered, late _ (.inl rfl), late _ (.inr rfl), if_neg full]
    rw [enqueue_of_not_full full]
    simp [reportOf]

/-! ## Nobody under way -/

/-- The caller has been told what became of his entry. -/
def Call.isOver (call : Call α) : Bool := call.accepted?.isSome || call.told?.isSome

theorem number?_of_told? {call : Call α} {n : Nat} (h : call.told? = some n) :
    call.number? = some n := by
  rw [Call.told?] at h
  split at h
  · next told =>
    rw [Call.number?, told]
    exact h
  · exact nomatch h

theorem told_sublist_numbers (s : Shared α) : s.told.Sublist s.numbers := by
  rw [Shared.told, Shared.numbers]
  induction s.calls.toList with
  | nil => exact List.Sublist.slnil
  | cons call calls ih =>
    rcases told : call.told? with _ | n
    · rw [List.filterMap_cons_none told]
      exact ih.trans ((List.sublist_cons_self call calls).filterMap _)
    · rw [List.filterMap_cons_some told, List.filterMap_cons_some (number?_of_told? told)]
      exact ih.cons_cons n

/-- If nobody is under way, all who have numbers have been told them. -/
theorem told_eq_numbers {s : Shared α} (ended : ∀ call ∈ s.calls, call.isOver = true) :
    s.told = s.numbers := by
  refine List.filterMap_congr fun call there ↦ ?_
  have done := ended call (Array.mem_toList_iff.mp there)
  rw [Call.isOver] at done
  obtain ⟨entry, _ | _ | n | n⟩ := call <;>
    simp_all [Call.accepted?, Call.told?, Call.number?]

/-- **First come, first served, and each drop counted once.** Whatever callers do, in whatever
order, with a queue for so many entries:

* what was accepted is what was taken out, batch after batch, and then what waits, in the order in
  which it came; no more than so many entries wait;
* an entry is refused exactly if so many wait, and then none of them is changed; otherwise it is the
  last of them from then on;
* whoever takes up to `n` entries gets the oldest, `n` or all there are;
* a call in one go is what `enqueue` is to the queue and to the reports;
* the numbers up to the count of the dropped are each that of one call, and each power of two among
  those that have been told was reported once, and nothing else was;
* if nobody is under way, the count is how many were told that their entries were dropped, and these
  have the numbers up to it. -/
theorem first_come_first_served (capacity : Nat) (events : List (Event α)) :
    let s := ((Shared.new capacity).run events).1
    let seen := ((Shared.new capacity).run events).2
    (s.accepted = drained seen ++ s.queue.entries.toList ∧ s.queue.size ≤ capacity) ∧
      (∀ entry, s.step (.offer entry) =
        (if s.queue.size = capacity then ⟨s.queue, s.calls.push ⟨entry, .refused⟩⟩
          else ⟨{ s.queue with entries := s.queue.entries.push entry },
            s.calls.push ⟨entry, .accepted⟩⟩, [])) ∧
      (∀ n, ∃ batch rest,
        s.step (.drain n) = (⟨{ s.queue with entries := rest }, s.calls⟩, [.drained batch]) ∧
          batch.toList = s.queue.entries.toList.take (min n s.queue.size) ∧
          rest.toList = s.queue.entries.toList.drop (min n s.queue.size)) ∧
      (∀ entry, s.run [.offer entry, .count s.calls.size, .tell s.calls.size] =
        (⟨s.queue.enqueue entry, s.calls.push ⟨entry,
            if s.queue.size = capacity then .told (s.queue.dropped + 1) else .accepted⟩⟩,
          ((reportOf s.queue.dropped (s.queue.enqueue entry)).map .reported).toList)) ∧
      (s.numbers.Perm (List.range' 1 s.queue.dropped) ∧
        ∃ milestones : List Nat, milestones.Nodup ∧
          (∀ n, n ∈ milestones ↔ n ∈ s.told ∧ ∃ k, n = 2 ^ k) ∧
          (reports seen).Perm (milestones.map (wording capacity))) ∧
      ((∀ call ∈ s.calls, call.isOver = true) → s.queue.dropped = s.told.length ∧
        ∀ n, n ∈ s.told ↔ 0 < n ∧ n ≤ s.queue.dropped) := by
  intro s seen
  have account : Account capacity s seen := (Account.new capacity).run events
  have full : s.queue.isFull = true ↔ s.queue.size = capacity := by
    rw [isFull, decide_eq_true_eq, ← account.room]
    exact ⟨Nat.le_antisymm account.within, fun h ↦ Nat.le_of_eq h.symm⟩
  have distinct : s.told.Nodup :=
    (told_sublist_numbers s).nodup (account.numbered.nodup_iff.mpr List.nodup_range')
  refine ⟨⟨account.order, account.room ▸ account.within⟩, ?_, ?_, ?_, ⟨account.numbered, ?_⟩, ?_⟩
  · intro entry
    rw [step_offer account.within, account.room]
  · intro n
    obtain ⟨taken, left⟩ := toList_drain s.queue n
    have least : s.queue.entries.toList.length = s.queue.size := Array.length_toList
    refine ⟨(s.queue.drain n).1, (s.queue.drain n).2.entries, rfl, ?_, ?_⟩
    · rw [taken, ← least, List.take_eq_take_min]
    · rw [left, ← least, List.drop_eq_drop_min]
  · intro entry
    rw [run_call]
    simp only [full]
  · refine ⟨s.told.filter isMilestone, distinct.filter _, fun n ↦ ?_, account.reported⟩
    rw [List.mem_filter, isMilestone_iff]
  · intro ended
    have all : s.told.Perm (List.range' 1 s.queue.dropped) :=
      told_eq_numbers ended ▸ account.numbered
    refine ⟨?_, fun n ↦ ?_⟩
    · rw [all.length_eq, List.length_range']
    · rw [all.mem_iff, List.mem_range'_1, Nat.add_comm, Nat.lt_succ_iff]
      exact Iff.rfl

/-- Two callers find a queue without room; the first counts first and reports last. -/
example : reports ((Shared.new 0).run
      [.offer "a", .offer "b", .count 0, .count 1, .tell 1, .tell 0]).2
    = [wording 0 2, wording 0 1] := by decide +kernel

end PaymentRelay.RetryQueue
