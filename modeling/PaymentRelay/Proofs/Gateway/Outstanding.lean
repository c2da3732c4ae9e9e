import PaymentRelay.Proofs.Gateway.Conservation

/-!
# Outstanding work is bounded

The client that hands in a payload is answered before anything has come of it, so nothing but the
gateway itself can keep the work that it has accepted from growing without end. Each place where a
payload can wait has a bound of its own:

* a task of its own occupies a slot, from the step that begins it to the step that ends it, and
  every slot is free or occupied at any time;
* the retry queue takes nothing when it is full;
* a task that sweeps takes its batches one after another, and no batch is larger than `batchSize`.

How many tasks sweep is decided by whoever begins them. So with a given number of workers the
gateway never holds more than the slots, the queue and one batch for each worker, however much is
handed in, and however long the processors are down.
-/

namespace PaymentRelay

variable {α : Type}

/-- How many slots a task occupies. -/
def Task.slots : Task α → Nat
  | ⟨.dispatch, .finished⟩ => 0
  | ⟨.dispatch, _⟩ => 1
  | _ => 0

@[simp] theorem Task.slots_wake (t : Task α) : t.wake.slots = t.slots := by
  obtain ⟨role, _ | _ | _ | _⟩ := t <;> cases role <;> rfl

/-- A slot is given back exactly when the task that occupies it is over. -/
theorem Role.slots_next (role : Role) (rest : List α) (taken : Nat) :
    Task.slots ⟨role, role.next rest taken⟩ + role.slotsFreed rest
      = Task.slots ⟨role, (.due : Activity α)⟩ := by
  cases rest with
  | cons payload rest =>
    rw [Role.slotsFreed_cons]
    cases role <;> rfl
  | nil =>
    cases role with
    | worker =>
      rw [Role.next]
      split <;> rfl
    | _ => rfl

namespace Gateway

/-! ## Slots -/

section Slots

variable {g : Gateway α}

theorem dispatching_eq_tally (g : Gateway α) : g.dispatching = g.tally Task.slots := by
  rw [dispatching, tally]
  induction g.tasks.toList with
  | nil => rfl
  | cons t ts ih =>
    rw [List.countP_cons, List.map_cons, List.sum_cons, ih, Nat.add_comm]
    refine congrArg (· + _) ?_
    obtain ⟨role, _ | _ | _ | _⟩ := t <;> cases role <;> rfl

theorem slots_of_next (g' : Gateway α) {task : Nat} {role : Role} {activity : Activity α}
    {rest : List α} {taken : Nat} (there : g.tasks[task]? = some ⟨role, activity⟩)
    (busy : Task.slots ⟨role, activity⟩ = Task.slots ⟨role, (.due : Activity α)⟩)
    (tasks : g'.tasks = g.tasks.setIfInBounds task ⟨role, role.next rest taken⟩)
    (freed : g'.freeSlots = g.freeSlots + role.slotsFreed rest) :
    g'.freeSlots + g'.dispatching = g.freeSlots + g.dispatching := by
  have moved := tally_of_setIfInBounds g' Task.slots there tasks
  have given := role.slots_next rest taken
  rw [dispatching_eq_tally, dispatching_eq_tally]
  omega

theorem slots_of_setTask {task : Nat} {t t' : Task α} (there : g.tasks[task]? = some t)
    (same : t'.slots = t.slots) :
    (g.setTask task t').freeSlots + (g.setTask task t').dispatching
      = g.freeSlots + g.dispatching := by
  have moved := tally_of_setIfInBounds (g.setTask task t') Task.slots there rfl
  have kept : (g.setTask task t').freeSlots = g.freeSlots := rfl
  rw [dispatching_eq_tally, dispatching_eq_tally, kept]
  omega

theorem slots_addTask (g : Gateway α) (t : Task α) :
    (g.addTask t).freeSlots + (g.addTask t).dispatching
      = g.freeSlots + g.dispatching + t.slots := by
  have more := tally_of_push (g.addTask t) Task.slots (t := t) rfl
  rw [dispatching_eq_tally, dispatching_eq_tally, more, ← Nat.add_assoc]
  rfl

theorem slots_setMonitor (g : Gateway α) (source : Source) (monitor : Monitor) :
    (g.setMonitor source monitor).freeSlots + (g.setMonitor source monitor).dispatching
      = g.freeSlots + g.dispatching := by
  rw [dispatching_eq_tally, tally_setMonitor g _ Task.slots_wake, setMonitor_eq,
    dispatching_eq_tally]

/-- **A slot is free or occupied**, whatever a step does. -/
theorem slots_step [Parcel α] (g : Gateway α) (event : Event α) :
    (g.step event).1.freeSlots + (g.step event).1.dispatching = g.freeSlots + g.dispatching := by
  -- while a task has a payload, it keeps its slot
  have busy (role : Role) (attempt : Attempt α) (rest : List α) (taken : Nat) :
      Task.slots ⟨role, .trying attempt rest taken⟩ = Task.slots ⟨role, (.due : Activity α)⟩ := by
    cases role <;> rfl
  have change := change_step g event
  generalize (g.step event).1 = after at change ⊢
  cases change with
  | accept handed free =>
    rw [slots_addTask]
    change g.freeSlots - 1 + g.dispatching + 1 = _
    omega
  | @start t begun unslotted =>
    have none_ : t.slots = 0 := by
      obtain ⟨role, activity⟩ := t
      cases role with
      | dispatch => exact absurd rfl unslotted
      | _ => rfl
    rw [slots_addTask, none_, Nat.add_zero]
  | look quiet there looked => exact slots_of_setTask there ((busy ..).trans (busy ..).symm)
  | fail fault quiet there => exact slots_of_next _ there (busy ..) rfl rfl
  | record ledger quiet there => exact slots_of_next _ there (busy ..) rfl rfl
  | fetch quiet there => exact slots_of_next _ there rfl rfl rfl
  | @rise task role quiet there =>
    refine slots_of_setTask there ?_
    cases role <;> rfl
  | watch => exact slots_setMonitor g _ _
  | _ => rfl

/-- **Every slot is free or occupied** at any time, and there are as many as there were. -/
theorem slots_run [Parcel α] (terms : Terms) (events : List (Event α)) :
    ((new terms).run events).1.freeSlots + ((new terms).run events).1.dispatching
      = terms.slots :=
  run_induction (I := fun g ↦ g.freeSlots + g.dispatching = terms.slots)
    (fun g event _ same ↦ (slots_step g event).trans same) rfl

end Slots

/-! ## The retry queue -/

theorem queue_dispose (g : Gateway α) (role : Role) (payload : α) (fault : PaymentFault) :
    (g.dispose role payload fault).1.queue = g.queue ∨
      (g.dispose role payload fault).1.queue = g.queue.enqueue payload := by
  rw [dispose]
  split
  · exact Or.inl rfl
  split
  · exact Or.inr rfl
  · exact Or.inl rfl

/-- **What a step can do to the retry queue**: it adds an entry, if there is room, or takes a
batch. -/
theorem queue_step [Parcel α] (g : Gateway α) (event : Event α) :
    (g.step event).1.queue = g.queue ∨
      (∃ payload, (g.step event).1.queue = g.queue.enqueue payload) ∨
      (g.step event).1.queue = (g.queue.drain batchSize).2 := by
  have change := change_step g event
  generalize (g.step event).1 = after at change ⊢
  cases change with
  | refuse => exact Or.inr (Or.inl ⟨_, rfl⟩)
  | fail fault => exact (queue_dispose g _ _ fault).imp_right fun more ↦ Or.inl ⟨_, more⟩
  | fetch => exact Or.inr (Or.inr rfl)
  | watch =>
    rw [setMonitor_eq]
    exact Or.inl rfl
  | _ => exact Or.inl rfl

/-- **The retry queue keeps within its capacity**, which never changes. -/
theorem queue_run [Parcel α] (terms : Terms) (events : List (Event α)) :
    ((new terms).run events).1.queue.capacity = terms.queueCapacity ∧
      ((new terms).run events).1.queue.size ≤ terms.queueCapacity := by
  refine run_induction
    (I := fun g ↦ g.queue.capacity = terms.queueCapacity ∧ g.queue.size ≤ terms.queueCapacity)
    ?_ ⟨rfl, Nat.zero_le _⟩
  rintro g event - ⟨capacity, within⟩
  rcases queue_step g event with same | ⟨payload, more⟩ | fewer
  · rw [same]
    exact ⟨capacity, within⟩
  · rw [more, RetryQueue.capacity_enqueue, ← capacity]
    exact ⟨rfl, RetryQueue.size_enqueue_le (capacity ▸ within) payload⟩
  · rw [fewer, RetryQueue.capacity_drain]
    exact ⟨capacity, Nat.le_trans (g.queue.size_drain_le batchSize) within⟩

/-! ## Batches -/

theorem length_batch_le (g : Gateway α) : g.batch.length ≤ batchSize := by
  rw [batch, Array.length_toList]
  exact g.queue.size_drain_fst_le batchSize

theorem payloads_turn [Parcel α] (g : Gateway α) (t u : Task α) (turn : Turn g t u)
    (h : t.payloads.length ≤ batchSize) : u.payloads.length ≤ batchSize := by
  cases turn with
  | stay => exact h
  | wake =>
    rw [Task.wake_payloads]
    exact h
  | look => exact h
  | settle role attempt rest taken =>
    rw [payloads_next]
    exact Nat.le_of_succ_le h
  | fetch role =>
    rw [payloads_next]
    exact g.length_batch_le
  | rise role => exact h

theorem payloads_begun {event : Event α} {u : Task α} (h : event.begun? = some u) :
    u.payloads.length ≤ batchSize := by
  have one : u.payloads.length ≤ 1 := by
    cases event <;> cases h
    · exact Nat.le_refl 1
    · exact Nat.le_refl 1
    · exact Nat.zero_le 1
    · exact Nat.zero_le 1
  exact Nat.le_trans one (by decide)

/-- **No task ever holds more than a batch.** -/
theorem length_payloads_run [Parcel α] {terms : Terms} {events : List (Event α)} {i : Nat}
    {t : Task α} (there : ((new terms).run events).1.tasks[i]? = some t) :
    t.payloads.length ≤ batchSize :=
  forall_tasks_run (I := fun t ↦ t.payloads.length ≤ batchSize)
    (fun _ _ _ begun ↦ payloads_begun begun) payloads_turn (fun _ _ there ↦ by cases there) there

/-! ## Who is at work -/

/-- The roles of all tasks, in the order in which they were begun. -/
def roles (g : Gateway α) : List Role := g.tasks.toList.map Task.role

/-- The role of the task that an event begins. One that hands in a payload begins none if no slot is
free. -/
def opens (g : Gateway α) : Event α → List Role
  | .ingest _ => if g.freeSlots = 0 then [] else [.dispatch]
  | .process _ => [.single]
  | .sweep => [.sweep]
  | .startWorker => [.worker]
  | _ => []

section Roles

variable {g : Gateway α}

theorem roles_of_setIfInBounds (g' : Gateway α) {task : Nat} {t t' : Task α}
    (there : g.tasks[task]? = some t) (h : g'.tasks = g.tasks.setIfInBounds task t')
    (same : t'.role = t.role) : g'.roles = g.roles := by
  have old : (g.tasks.toList.map Task.role)[task]? = some t.role := by
    rw [List.getElem?_map, Array.getElem?_toList, there]
    rfl
  obtain ⟨within, role⟩ := List.getElem?_eq_some_iff.mp old
  rw [roles, h, Array.toList_setIfInBounds, List.map_set, same, ← role, List.set_getElem_self,
    roles]

theorem roles_addTask (g : Gateway α) (t : Task α) : (g.addTask t).roles = g.roles ++ [t.role] := by
  rw [roles, addTask, Array.toList_push, List.map_append]
  rfl

theorem roles_setMonitor (g : Gateway α) (source : Source) (monitor : Monitor) :
    (g.setMonitor source monitor).roles = g.roles := by
  rcases g.setMonitor_tasks source monitor with same | woken
  · rw [roles, same, roles]
  · rw [roles, woken, Array.toList_map, List.map_map, roles]
    exact List.map_congr_left fun t _ ↦ t.wake_role

theorem opens_of_quiet {event : Event α} (quiet : event.begun? = none) (g : Gateway α) :
    g.opens event = [] := by
  cases event <;> first | rfl | cases quiet

theorem opens_of_begun {event : Event α} {t : Task α} (begun : event.begun? = some t)
    (unslotted : t.role ≠ .dispatch) (g : Gateway α) : g.opens event = [t.role] := by
  cases event <;> cases begun <;> first | rfl | exact absurd rfl unslotted

/-- **What tasks there are**: a task has its role for good, and one is begun for each payload that
is handed in while a slot is free, for each caller, for each sweep and for each worker. -/
theorem roles_step [Parcel α] (g : Gateway α) (event : Event α) :
    (g.step event).1.roles = g.roles ++ g.opens event := by
  have kept {g' : Gateway α} (quiet : event.begun? = none) (same : g'.roles = g.roles) :
      g'.roles = g.roles ++ g.opens event := by
    rw [same, opens_of_quiet quiet, List.append_nil]
  have change := change_step g event
  generalize (g.step event).1 = after at change ⊢
  cases change with
  | idle quiet => exact kept quiet rfl
  | refuse handed full =>
    rw [handed, opens, if_pos full, List.append_nil]
    rfl
  | accept handed free =>
    rw [handed, opens, if_neg free]
    exact roles_addTask { g with freeSlots := g.freeSlots - 1 } _
  | start begun unslotted =>
    rw [opens_of_begun begun unslotted]
    exact roles_addTask g _
  | look quiet there => exact kept quiet (roles_of_setIfInBounds _ there rfl rfl)
  | fail fault quiet there => exact kept quiet (roles_of_setIfInBounds _ there rfl rfl)
  | record ledger quiet there => exact kept quiet (roles_of_setIfInBounds _ there rfl rfl)
  | fetch quiet there => exact kept quiet (roles_of_setIfInBounds _ there rfl rfl)
  | rise quiet there => exact kept quiet (roles_of_setIfInBounds _ there rfl rfl)
  | watch quiet => exact kept quiet (roles_setMonitor g _ _)
  | purge quiet => exact kept quiet rfl

/-- The event begins a task of such a role, unless it hands in a payload and no slot is free. -/
def Event.begins (q : Role → Bool) (event : Event α) : Bool :=
  event.begun?.any fun t ↦ q t.role

theorem countP_opens {q : Role → Bool} (other : q .dispatch = false) (g : Gateway α)
    (event : Event α) : (g.opens event).countP q = if event.begins q then 1 else 0 := by
  cases event with
  | ingest payload =>
    rw [opens, Event.begins]
    split <;> simp [Event.begun?, Task.carrying, other]
  | process payload => exact List.countP_singleton
  | sweep => exact List.countP_singleton
  | startWorker => exact List.countP_singleton
  | _ => rfl

/-- Apart from those that carry what was handed in, there are as many tasks as were begun. -/
theorem countP_roles_run [Parcel α] {q : Role → Bool} (other : q .dispatch = false)
    (g : Gateway α) (events : List (Event α)) :
    (g.run events).1.roles.countP q = g.roles.countP q + events.countP (Event.begins q) := by
  induction events generalizing g with
  | nil => rfl
  | cons event events ih =>
    rw [run_cons, ih, roles_step, List.countP_append, countP_opens other, List.countP_cons]
    omega

end Roles

/-! ## All together -/

/-- How many payloads the gateway holds. -/
def outstanding (g : Gateway α) : Nat := load (fun _ ↦ 1) g

theorem weigh_one (payloads : List α) : weigh (fun _ ↦ 1) payloads = payloads.length := by
  induction payloads with
  | nil => rfl
  | cons payload payloads ih => rw [weigh_cons, ih, List.length_cons, Nat.add_comm]

/-- A payload that the gateway holds is with a task that dispatches, in the retry queue, with a task
that sweeps, or with a caller's task. -/
theorem outstanding_eq {g : Gateway α}
    (shaped : ∀ (i : Nat) (t : Task α), g.tasks[i]? = some t → Shaped t) :
    g.outstanding = g.dispatching + g.queue.size + (g.inHands Role.isSweeping).length
      + (g.inHands (· == .single)).length := by
  have entries : g.queue.entries.toList.length = g.queue.size := Array.length_toList
  rw [outstanding, load, held_eq, waiting, weigh_one, weigh_one, weigh_one, weigh_one,
    length_inHands_dispatch shaped, entries]
  omega

theorem length_inHands_le {g : Gateway α} (q : Role → Bool)
    (within : ∀ (i : Nat) (t : Task α), g.tasks[i]? = some t → t.payloads.length ≤ batchSize) :
    (g.inHands q).length ≤ batchSize * g.roles.countP q := by
  have within : ∀ t ∈ g.tasks.toList, t.payloads.length ≤ batchSize := by
    intro t mem
    obtain ⟨i, there⟩ := Array.mem_iff_getElem?.mp (Array.mem_toList_iff.mp mem)
    exact within i t there
  rw [inHands, roles]
  generalize g.tasks.toList = tasks at within
  induction tasks with
  | nil => exact Nat.zero_le _
  | cons t ts ih =>
    have one := within t List.mem_cons_self
    have rest := ih fun t mem ↦ within t (List.mem_cons_of_mem _ mem)
    rw [List.flatMap_cons, List.length_append, List.map_cons, List.countP_cons, Nat.mul_add]
    split
    · omega
    · simpa using rest

/-- The payloads that are offered to the retry queue, whether it takes them or not, in order. -/
def offers (effects : List (Effect α)) : List α :=
  effects.filterMap fun
    | .queued payload | .dropped payload _ => some payload
    | _ => none

/-- No more tasks are begun that take batches than workers are wanted, if at least one, and nobody
has a payload processed for himself. -/
structure Staffed (wanted : Nat) (events : List (Event α)) : Prop where
  sweepers : events.countP (Event.begins Role.isSweeping) ≤ workerCount wanted
  callers : events.countP (Event.begins (· == .single)) = 0

theorem countP_roles_of_staffed [Parcel α] {wanted : Nat} {events : List (Event α)}
    (staffed : Staffed wanted events) (terms : Terms) :
    ((new terms).run events).1.roles.countP Role.isSweeping ≤ workerCount wanted ∧
      ((new terms).run events).1.roles.countP (· == .single) = 0 := by
  have none (q : Role → Bool) : (new terms : Gateway α).roles.countP q = 0 := rfl
  rw [countP_roles_run rfl, countP_roles_run rfl, none, none, Nat.zero_add, Nat.zero_add]
  exact ⟨staffed.sweepers, staffed.callers⟩

/-- The slots, the retry queue and a batch for each worker have room for all that is held. -/
theorem outstanding_le [Parcel α] {wanted : Nat} {events : List (Event α)}
    (staffed : Staffed wanted events) (terms : Terms) :
    ((new terms).run events).1.outstanding
      ≤ terms.slots + terms.queueCapacity + batchSize * workerCount wanted := by
  obtain ⟨sweepers, callers⟩ := countP_roles_of_staffed staffed terms
  have slots := slots_run terms events
  have queue := (queue_run terms events).2
  have batches := length_inHands_le (g := ((new terms).run events).1) Role.isSweeping
    fun _ _ there ↦ length_payloads_run there
  have guests := length_inHands_le (g := ((new terms).run events).1) (· == .single)
    fun _ _ there ↦ length_payloads_run there
  have most := Nat.mul_le_mul_left batchSize sweepers
  rw [callers] at guests
  rw [outstanding_eq fun _ _ there ↦ shaped_run there]
  omega

/-- **Outstanding work is bounded.** Whatever is handed in, whatever the processors do and in
whatever order things happen,

* every slot is free or occupied by a task with a payload that was handed in, and there are as many
  slots as payloads may have a task of their own, or one;
* the retry queue keeps within its capacity;
* no task that takes batches holds more than a batch;
* with no more such tasks than workers are wanted, or one, the gateway holds no more payloads than
  the slots, the retry queue and a batch for each of them have room for;
* a payload that is handed in gets a task of its own if a slot is free, and is otherwise offered to
  the retry queue, once. -/
theorem outstanding_work_bounded (terms : Terms) (events : List (Event String)) :
    let g := ((new terms).run events).1
    g.freeSlots + g.dispatching = max terms.maxInFlight 1 ∧
      g.queue.size ≤ terms.queueCapacity ∧
      (∀ t ∈ g.tasks, t.role.isSweeping = true → t.payloads.length ≤ batchSize) ∧
      (∀ wanted, Staffed wanted events →
        g.roles.countP Role.isSweeping ≤ max wanted 1 ∧
          g.outstanding
            ≤ max terms.maxInFlight 1 + terms.queueCapacity + batchSize * max wanted 1) ∧
      ∀ payload,
        let after := g.step (.ingest payload)
        if 0 < g.freeSlots then
          after.1.tasks = g.tasks.push (.carrying .dispatch payload) ∧
            after.1.freeSlots + 1 = g.freeSlots ∧ after.1.queue = g.queue ∧ offers after.2 = []
        else
          after.1.tasks = g.tasks ∧ after.1.freeSlots = g.freeSlots ∧
            after.1.queue = g.queue.enqueue payload ∧ offers after.2 = [payload] := by
  intro g
  refine ⟨slots_run terms events, (queue_run terms events).2, ?_, ?_, ?_⟩
  · intro t mem _
    obtain ⟨i, there⟩ := Array.mem_iff_getElem?.mp mem
    exact length_payloads_run there
  · intro wanted staffed
    exact ⟨(countP_roles_of_staffed staffed terms).1, outstanding_le staffed terms⟩
  · intro payload after
    split
    · next free =>
      have given : after = ({ g with freeSlots := g.freeSlots - 1 }.addTask
          (.carrying .dispatch payload), []) := if_neg (Nat.ne_of_gt free)
      rw [given]
      exact ⟨rfl, Nat.sub_add_cancel free, rfl, rfl⟩
    · next taken =>
      have given : after = g.enqueue payload := if_pos (Nat.eq_zero_of_not_pos taken)
      rw [given]
      refine ⟨rfl, rfl, rfl, ?_⟩
      rw [enqueue]
      dsimp only
      split <;> rfl

/-- Nobody wants slots or workers, so there is one of each: the first payload has the slot, the
second is with the worker, the third waits, and the fourth is dropped. -/
theorem outstanding_with_one_of_each :
    let terms : Terms := ⟨false, 0, 1, 5040⟩
    let events : List (Event String) := [.startWorker, .ingest "a", .ingest "b", .run 0 0,
      .ingest "c", .ingest "d"]
    Staffed 0 events ∧ ((new terms).run events).1.outstanding = 3 ∧
      ((new terms).run events).1.queue.dropped = 1 ∧
      ((new terms).run events).1.outstanding ≤ 1 + 1 + batchSize * 1 := by
  intro terms events
  have staffed : Staffed 0 events := ⟨by decide, by decide⟩
  obtain ⟨-, -, -, bounded, -⟩ := outstanding_work_bounded terms events
  exact ⟨staffed, by decide +kernel, by decide +kernel, (bounded 0 staffed).2⟩

end Gateway

end PaymentRelay
