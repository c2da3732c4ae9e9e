import PaymentRelay.Gateway.Step

/-!
# What a step can make of a task

The step function of the gateway is taken apart once, here. `Change` lists what a step can make of
the gateway as a whole. A step changes one task at most, apart from waking those that wait for main,
and there are six things that it can make of a task: `Turn` lists them. A task that was not there is
the one that the event begins. Whatever is kept by all six and holds of a task that begins holds of
every task that a run ever shows, and that is how the invariants of the gateway are proved.

What happens to a task whose attempt is over depends on its role and on what is left of its batch,
and on nothing else. `Role.next` says it in one place, where the step function says it in four.
-/

namespace PaymentRelay

variable {α : Type}

/-- What a task does when its attempt is over and `rest` is left of its batch. -/
def Role.next (role : Role) (rest : List α) (taken : Nat) : Activity α :=
  match rest with
  | payload :: rest => .trying (.begin payload) rest taken
  | [] =>
    match role with
    | .dispatch | .single | .sweep => .finished
    | .worker => if taken < Gateway.batchSize then .resting else .due

/-- How many slots are given back when an attempt is over and `rest` is left. -/
def Role.slotsFreed (role : Role) (rest : List α) : Nat :=
  if role = .dispatch ∧ rest = [] then 1 else 0

@[simp] theorem Role.slotsFreed_cons (role : Role) (payload : α) (rest : List α) :
    role.slotsFreed (payload :: rest) = 0 := by
  rw [Role.slotsFreed, if_neg (by simp)]

theorem Role.attempt?_next (role : Role) (rest : List α) (taken : Nat) :
    Task.attempt? ⟨role, role.next rest taken⟩ = rest.head?.map Attempt.begin := by
  cases rest with
  | cons payload rest => rfl
  | nil =>
    cases role with
    | worker =>
      rw [Role.next]
      split <;> rfl
    | _ => rfl

/-! ## Waking changes the stage of an attempt and nothing else -/

@[simp] theorem Task.wake_role (t : Task α) : t.wake.role = t.role := by
  obtain ⟨role, _ | _ | _ | _⟩ := t <;> rfl

@[simp] theorem Task.wake_payloads (t : Task α) : t.wake.payloads = t.payloads := by
  obtain ⟨role, _ | _ | _ | _⟩ := t <;> rfl

/-! ## What can become of a monitor -/

/-- What a single step can make of a monitor. -/
inductive Monitor.Next (m : Monitor) : Monitor → Prop where
  /-- The processor is found to be down. -/
  | markDown (now : Ticks) : Next m (m.markDown now)
  /-- The processor is found to be up. -/
  | markUp : Next m m.markUp
  /-- A timer comes back. -/
  | expire (deadline : Ticks) : Next m (m.expire deadline)

namespace Gateway

/-! ## The parts of a step -/

theorem nextAttempt_fst (g : Gateway α) (task : Nat) (role : Role) (rest : List α) (taken : Nat)
    (result : TaskResult) :
    (g.nextAttempt task role rest taken result).1 =
      { g with
        freeSlots := g.freeSlots + role.slotsFreed rest
        tasks := g.tasks.setIfInBounds task ⟨role, role.next rest taken⟩ } := by
  cases rest with
  | cons payload rest =>
    rw [Role.slotsFreed_cons]
    rfl
  | nil =>
    cases role with
    | dispatch => rfl
    | single => rfl
    | sweep => rfl
    | worker =>
      rw [nextAttempt, endBatch, Role.next]
      split <;> rfl

theorem mem_nextAttempt_snd {g : Gateway α} {task : Nat} {role : Role} {rest : List α} {taken : Nat}
    {result : TaskResult} {effect : Effect α}
    (h : effect ∈ (g.nextAttempt task role rest taken result).2) :
    (∃ result, effect = .finished task result) ∨ effect = .rested task := by
  cases rest with
  | cons payload rest => cases h
  | nil =>
    cases role with
    | worker =>
      rw [nextAttempt, endBatch] at h
      split at h
      · exact Or.inr (List.mem_singleton.mp h)
      · cases h
    | _ => exact Or.inl ⟨_, List.mem_singleton.mp h⟩

theorem dispose_fst (g : Gateway α) (role : Role) (payload : α) (fault : PaymentFault) :
    (g.dispose role payload fault).1 =
      { g with queue := (g.dispose role payload fault).1.queue } := by
  rw [dispose]
  split
  · rfl
  split
  · rfl
  · rfl

theorem failAttempt_fst (g : Gateway α) (task : Nat) (role : Role) (attempt : Attempt α)
    (rest : List α) (taken : Nat) (fault : PaymentFault) :
    (g.failAttempt task role attempt rest taken fault).1 =
      { g with
        queue := (g.dispose role attempt.payload fault).1.queue
        freeSlots := g.freeSlots + role.slotsFreed rest
        tasks := g.tasks.setIfInBounds task ⟨role, role.next rest taken⟩ } := by
  rw [failAttempt]
  dsimp only
  rw [nextAttempt_fst, dispose_fst]

theorem recordAttempt_fst (g : Gateway α) (task : Nat) (role : Role) (payload : α)
    (payment : Payment) (source : Source) (requestedAt : Millis) (rest : List α) (taken : Nat) :
    (g.recordAttempt task role payload payment source requestedAt rest taken).1 =
      { g with
        ledger := g.ledger.save source requestedAt payment.amount
        freeSlots := g.freeSlots + role.slotsFreed rest
        tasks := g.tasks.setIfInBounds task ⟨role, role.next rest taken⟩ } := by
  rw [recordAttempt]
  dsimp only
  rw [nextAttempt_fst]

/-- The payloads that a task takes from the retry queue when it is its turn. -/
def batch (g : Gateway α) : List α := (g.queue.drain batchSize).1.toList

theorem takeBatch_fst (g : Gateway α) (task : Nat) (role : Role) :
    (g.takeBatch task role).1 =
      { g with
        queue := (g.queue.drain batchSize).2
        freeSlots := g.freeSlots + role.slotsFreed g.batch
        tasks := g.tasks.setIfInBounds task ⟨role, role.next g.batch g.batch.length⟩ } := by
  rw [takeBatch]
  dsimp only
  rw [nextAttempt_fst, batch, Array.length_toList]

theorem setMonitor_tasks (g : Gateway α) (source : Source) (monitor : Monitor) :
    (g.setMonitor source monitor).tasks = g.tasks ∨
      (g.setMonitor source monitor).tasks = g.tasks.map Task.wake := by
  rw [setMonitor]
  split
  · exact Or.inr rfl
  · exact Or.inl rfl

theorem setMonitor_eq (g : Gateway α) (source : Source) (monitor : Monitor) :
    g.setMonitor source monitor =
      { g with
        health := g.health.set source monitor
        tasks := (g.setMonitor source monitor).tasks } := by
  rw [setMonitor]
  split <;> rfl

/-! ## What becomes of the whole gateway -/

/-- The task that an event begins. One that hands in a payload begins none if no slot is free. -/
def Event.begun? : Event α → Option (Task α)
  | .ingest payload => some (.carrying .dispatch payload)
  | .process payload => some (.carrying .single payload)
  | .sweep => some (.sweeping .sweep)
  | .startWorker => some (.sweeping .worker)
  | _ => none

/-- What a step of `g` that carries out `event` can make of `g`. -/
inductive Change [Parcel α] (g : Gateway α) (event : Event α) : Gateway α → Prop where
  /-- Nothing changes. -/
  | idle (quiet : event.begun? = none) : Change g event g
  /-- A payload is handed in while no slot is free. -/
  | refuse {payload : α} (handed : event = .ingest payload) (full : g.freeSlots = 0) :
      Change g event { g with queue := g.queue.enqueue payload }
  /-- A payload is handed in and takes a slot. -/
  | accept {payload : α} (handed : event = .ingest payload) (free : g.freeSlots ≠ 0) :
      Change g event ({ g with freeSlots := g.freeSlots - 1 }.addTask (.carrying .dispatch payload))
  /-- A task begins that needs no slot. -/
  | start {t : Task α} (begun : event.begun? = some t) (unslotted : t.role ≠ .dispatch) :
      Change g event (g.addTask t)
  /-- An attempt comes to another stage. -/
  | look {task : Nat} {role : Role} {attempt : Attempt α} {rest : List α} {taken : Nat}
      {requestedAt : Millis} {stage : Stage} (quiet : event.begun? = none)
      (there : g.tasks[task]? = some ⟨role, .trying attempt rest taken⟩)
      (looked : g.look attempt requestedAt = .ok stage) :
      Change g event (g.setTask task ⟨role, .trying { attempt with stage } rest taken⟩)
  /-- An attempt has failed. -/
  | fail {task : Nat} {role : Role} {attempt : Attempt α} {rest : List α} {taken : Nat}
      (fault : PaymentFault) (quiet : event.begun? = none)
      (there : g.tasks[task]? = some ⟨role, .trying attempt rest taken⟩) :
      Change g event
        { g with
          queue := (g.dispose role attempt.payload fault).1.queue
          freeSlots := g.freeSlots + role.slotsFreed rest
          tasks := g.tasks.setIfInBounds task ⟨role, role.next rest taken⟩ }
  /-- An attempt has succeeded. -/
  | record {task : Nat} {role : Role} {attempt : Attempt α} {rest : List α} {taken : Nat}
      (ledger : Ledger) (quiet : event.begun? = none)
      (there : g.tasks[task]? = some ⟨role, .trying attempt rest taken⟩) :
      Change g event
        { g with
          ledger
          freeSlots := g.freeSlots + role.slotsFreed rest
          tasks := g.tasks.setIfInBounds task ⟨role, role.next rest taken⟩ }
  /-- A task takes a batch. -/
  | fetch {task : Nat} {role : Role} (quiet : event.begun? = none)
      (there : g.tasks[task]? = some ⟨role, .due⟩) :
      Change g event
        { g with
          queue := (g.queue.drain batchSize).2
          freeSlots := g.freeSlots + role.slotsFreed g.batch
          tasks := g.tasks.setIfInBounds task ⟨role, role.next g.batch g.batch.length⟩ }
  /-- A task has slept long enough. -/
  | rise {task : Nat} {role : Role} (quiet : event.begun? = none)
      (there : g.tasks[task]? = some ⟨role, .resting⟩) :
      Change g event (g.setTask task ⟨role, .due⟩)
  /-- A monitor changes. -/
  | watch {source : Source} {monitor : Monitor} (quiet : event.begun? = none)
      (next : (g.health.get source).Next monitor) :
      Change g event (g.setMonitor source monitor)
  /-- The ledger is emptied. -/
  | purge (quiet : event.begun? = none) : Change g event { g with ledger := .empty }

/-- **What a step makes of the gateway.** -/
theorem change_step [Parcel α] (g : Gateway α) (event : Event α) :
    Change g event (g.step event).1 := by
  cases event with
  | ingest payload =>
    rw [step, ingest]
    split
    · next full => exact .refuse rfl full
    · next free => exact .accept rfl free
  | process payload => exact .start rfl nofun
  | sweep => exact .start rfl nofun
  | startWorker => exact .start rfl nofun
  | run task requestedAt =>
    rw [step, runTask]
    split
    · next role attempt rest taken there =>
      split
      · next stage looked => exact .look rfl there looked
      · rw [failAttempt_fst]
        exact .fail _ rfl there
    · next role there =>
      rw [takeBatch_fst]
      exact .fetch rfl there
    · exact .idle rfl
  | answer task outcome =>
    rw [step, answerTask]
    split
    · next role payload payment source requestedAt rest taken there =>
      split
      · rw [recordAttempt_fst]
        exact .record _ rfl there
      · rw [failAttempt_fst]
        exact .fail _ rfl there
    · exact .idle rfl
  | wakeWorker task =>
    rw [step]
    split
    · next role there => exact .rise rfl there
    · exact .idle rfl
  | markDown source now => exact .watch rfl (.markDown now)
  | markUp source => exact .watch rfl .markUp
  | expire source deadline => exact .watch rfl (.expire deadline)
  | purge => exact .purge rfl

/-- **A step changes one monitor** and nothing else but to wake tasks, or it leaves both monitors
alone. Whether fallback may be called is never decided anew. -/
theorem health_step [Parcel α] (g : Gateway α) (event : Event α) :
    (∃ source monitor, (g.health.get source).Next monitor ∧
        (g.step event).1 = g.setMonitor source monitor) ∨
      ((g.step event).1.health = g.health ∧ (g.step event).1.failover = g.failover) := by
  have change := change_step g event
  generalize (g.step event).1 = after at change
  cases change with
  | watch quiet next => exact Or.inl ⟨_, _, next, rfl⟩
  | _ => exact Or.inr ⟨rfl, rfl⟩

/-! ## What becomes of a task -/

/-- What a step of `g` can make of a task that is there. -/
inductive Turn [Parcel α] (g : Gateway α) : Task α → Task α → Prop where
  /-- It is left alone. -/
  | stay (t : Task α) : Turn g t t
  /-- Something that it may wait for is published. -/
  | wake (t : Task α) : Turn g t t.wake
  /-- Its attempt comes to another stage. -/
  | look {role : Role} {attempt : Attempt α} {rest : List α} {taken : Nat} {requestedAt : Millis}
      {stage : Stage} (h : g.look attempt requestedAt = .ok stage) :
      Turn g ⟨role, .trying attempt rest taken⟩ ⟨role, .trying { attempt with stage } rest taken⟩
  /-- Its attempt is over. -/
  | settle (role : Role) (attempt : Attempt α) (rest : List α) (taken : Nat) :
      Turn g ⟨role, .trying attempt rest taken⟩ ⟨role, role.next rest taken⟩
  /-- It takes a batch. -/
  | fetch (role : Role) : Turn g ⟨role, .due⟩ ⟨role, role.next g.batch g.batch.length⟩
  /-- It has slept long enough. -/
  | rise (role : Role) : Turn g ⟨role, .resting⟩ ⟨role, .due⟩

section Turns

variable [Parcel α] {g : Gateway α}

theorem turn_of_setIfInBounds {task i : Nat} {t t' u : Task α} (there : g.tasks[task]? = some t)
    (turn : Turn g t t') (h : (g.tasks.setIfInBounds task t')[i]? = some u) :
    ∃ t, g.tasks[i]? = some t ∧ Turn g t u := by
  rw [Array.getElem?_setIfInBounds] at h
  split at h
  · next same =>
    subst same
    split at h
    · cases h
      exact ⟨t, there, turn⟩
    · cases h
  · exact ⟨u, h, .stay u⟩

theorem turn_setMonitor {source : Source} {monitor : Monitor} {i : Nat} {u : Task α}
    (h : (g.setMonitor source monitor).tasks[i]? = some u) :
    ∃ t, g.tasks[i]? = some t ∧ Turn g t u := by
  rcases g.setMonitor_tasks source monitor with same | woken
  · rw [same] at h
    exact ⟨u, h, .stay u⟩
  · rw [woken, Array.getElem?_map, Option.map_eq_some_iff] at h
    obtain ⟨t, there, rfl⟩ := h
    exact ⟨t, there, .wake t⟩

theorem turn_of_push {i : Nat} {t u : Task α} (h : (g.tasks.push t)[i]? = some u) :
    (∃ t, g.tasks[i]? = some t ∧ Turn g t u) ∨ (i = g.tasks.size ∧ some t = some u) := by
  rw [Array.getElem?_push] at h
  split at h
  · next last => exact Or.inr ⟨last, h⟩
  · exact Or.inl ⟨u, h, .stay u⟩

/-- **Every task after a step** is one that was there and has had a turn, or the one that the event
begins. -/
theorem turn_step {event : Event α} {i : Nat} {u : Task α}
    (h : (g.step event).1.tasks[i]? = some u) :
    (∃ t, g.tasks[i]? = some t ∧ Turn g t u) ∨ (i = g.tasks.size ∧ event.begun? = some u) := by
  have change := change_step g event
  generalize (g.step event).1 = after at change h
  cases change with
  | idle => exact Or.inl ⟨u, h, .stay u⟩
  | refuse => exact Or.inl ⟨u, h, .stay u⟩
  | accept handed => exact handed ▸ turn_of_push h
  | start begun => exact begun ▸ turn_of_push h
  | look quiet there looked => exact Or.inl (turn_of_setIfInBounds there (.look looked) h)
  | fail fault quiet there => exact Or.inl (turn_of_setIfInBounds there (.settle ..) h)
  | record ledger quiet there => exact Or.inl (turn_of_setIfInBounds there (.settle ..) h)
  | fetch quiet there => exact Or.inl (turn_of_setIfInBounds there (.fetch _) h)
  | rise quiet there => exact Or.inl (turn_of_setIfInBounds there (.rise _) h)
  | watch => exact Or.inl (turn_setMonitor h)
  | purge => exact Or.inl ⟨u, h, .stay u⟩

end Turns

/-! ## What is done, and why

The effects of a step, each with what must have been there for it. -/

/-- A payload that a step of `g` may put into the retry queue. -/
inductive Offered (g : Gateway α) (event : Event α) : α → Prop where
  /-- It has just been handed in. -/
  | ingested {payload : α} (h : event = .ingest payload) : Offered g event payload
  /-- Its attempt has failed, and nobody waits for the result. -/
  | failed {task : Nat} {role : Role} {attempt : Attempt α} {rest : List α} {taken : Nat}
      (there : g.tasks[task]? = some ⟨role, .trying attempt rest taken⟩)
      (unowned : role ≠ .single) : Offered g event attempt.payload

/-- Why a step of `g` that carries out `event` does something. -/
inductive Arises [Parcel α] (g : Gateway α) (event : Event α) : Effect α → Prop where
  /-- An attempt has found a processor. -/
  | called {task : Nat} {role : Role} {attempt : Attempt α} {rest : List α} {taken : Nat}
      {payment : Payment} {source : Source} {at_ requestedAt : Millis}
      (there : g.tasks[task]? = some ⟨role, .trying attempt rest taken⟩)
      (before : ∀ payment source at_, attempt.stage ≠ .calling payment source at_)
      (looked : g.look attempt at_ = .ok (.calling payment source requestedAt)) :
      Arises g event (.called task source attempt.payload payment requestedAt)
  /-- The processor that an attempt has called has taken the payment. -/
  | recorded {task : Nat} {role : Role} {payload : α} {rest : List α} {taken : Nat}
      {payment : Payment} {source : Source} {requestedAt : Millis}
      (there : g.tasks[task]? = some
        ⟨role, .trying ⟨payload, .calling payment source requestedAt⟩ rest taken⟩)
      (answered : event = .answer task .taken) :
      Arises g event (.recorded task source payload payment requestedAt)
  /-- An attempt has found no payment. -/
  | discarded {task : Nat} {role : Role} {attempt : Attempt α} {rest : List α} {taken : Nat}
      {requestedAt : Millis} {fault : Payload.Fault}
      (there : g.tasks[task]? = some ⟨role, .trying attempt rest taken⟩) (unowned : role ≠ .single)
      (looked : g.look attempt requestedAt = .error fault) :
      Arises g event (.discarded role attempt.payload (.invalidPayload fault))
  /-- The attempt of a caller has failed. -/
  | returned {task : Nat} {attempt : Attempt α} {rest : List α} {taken : Nat} {fault : PaymentFault}
      (there : g.tasks[task]? = some ⟨.single, .trying attempt rest taken⟩) :
      Arises g event (.returned attempt.payload fault)
  /-- A payload is to wait for another attempt. -/
  | enqueued {payload : α} {effect : Effect α} (offered : Offered g event payload)
      (done : effect ∈ (g.enqueue payload).2) : Arises g event effect
  /-- A task is over. -/
  | finished (task : Nat) (result : TaskResult) : Arises g event (.finished task result)
  /-- A task goes to sleep. -/
  | rested (task : Nat) : Arises g event (.rested task)

theorem mem_callOf {task : Nat} {payload : α} {before after : Stage}
    {effect : Effect α} (h : effect ∈ callOf task payload before after) :
    (∀ payment source at_, before ≠ .calling payment source at_) ∧
      ∃ payment source requestedAt, after = .calling payment source requestedAt ∧
        effect = .called task source payload payment requestedAt := by
  unfold callOf at h
  split at h
  · cases h
  · next payment source requestedAt fresh =>
    exact ⟨fresh, payment, source, requestedAt, rfl, List.mem_singleton.mp h⟩
  · cases h

section Arising

variable [Parcel α] {g : Gateway α} {event : Event α} {effect : Effect α}

theorem arises_of_mem_nextAttempt {g' : Gateway α} {task : Nat} {role : Role} {rest : List α}
    {taken : Nat} {result : TaskResult}
    (h : effect ∈ (g'.nextAttempt task role rest taken result).2) : Arises g event effect := by
  rcases mem_nextAttempt_snd h with ⟨result, rfl⟩ | rfl
  · exact .finished task result
  · exact .rested task

/-- An attempt that fails because its payload says no payment, or because of its processor. -/
theorem arises_of_mem_failAttempt {task : Nat} {role : Role} {attempt : Attempt α} {rest : List α}
    {taken : Nat} {fault : PaymentFault}
    (there : g.tasks[task]? = some ⟨role, .trying attempt rest taken⟩)
    (cause : fault.isRetryable = false →
      ∃ requestedAt cause, g.look attempt requestedAt = .error cause ∧
        fault = .invalidPayload cause)
    (h : effect ∈ (g.failAttempt task role attempt rest taken fault).2) :
    Arises g event effect := by
  rw [failAttempt] at h
  rcases List.mem_append.mp h with disposed | ended
  · rw [dispose] at disposed
    split at disposed
    · next owned =>
      subst owned
      rw [List.mem_singleton.mp disposed]
      exact .returned there
    split at disposed
    · next unowned _ => exact .enqueued (.failed there unowned) disposed
    · next unowned final =>
      -- only a payload that says no payment is not tried again
      obtain ⟨requestedAt, cause, looked, rfl⟩ := cause (Bool.eq_false_iff.mpr final)
      rw [List.mem_singleton.mp disposed]
      exact .discarded there unowned looked
  · exact arises_of_mem_nextAttempt ended

theorem arises_of_mem_runTask {task : Nat} {requestedAt : Millis}
    (h : effect ∈ (g.runTask task requestedAt).2) : Arises g event effect := by
  rw [runTask] at h
  split at h
  · next role attempt rest taken there =>
    split at h
    · next stage looked =>
      obtain ⟨before, payment, source, at_, rfl, rfl⟩ := mem_callOf h
      exact .called there before looked
    · next fault looked =>
      exact arises_of_mem_failAttempt there (fun _ ↦ ⟨requestedAt, fault, looked, rfl⟩) h
  · exact arises_of_mem_nextAttempt h
  · cases h

theorem arises_of_mem_answerTask {task : Nat} {outcome : ProcessorOutcome}
    (h : effect ∈ (g.answerTask task outcome).2) :
    Arises g (.answer task outcome) effect := by
  rw [answerTask] at h
  split at h
  · next role payload payment source requestedAt rest taken there =>
    split at h
    · rcases List.mem_cons.mp h with rfl | ended
      · exact .recorded there rfl
      · exact arises_of_mem_nextAttempt ended
    · exact arises_of_mem_failAttempt there (fun final ↦ by cases final) h
  · cases h

/-- **Every effect of a step** has its reason in the gateway before it. -/
theorem arises_of_mem_step (h : effect ∈ (g.step event).2) : Arises g event effect := by
  cases event with
  | ingest payload =>
    rw [step, ingest] at h
    split at h
    · exact .enqueued (.ingested rfl) h
    · cases h
  | run task requestedAt => exact arises_of_mem_runTask h
  | answer task outcome => exact arises_of_mem_answerTask h
  | wakeWorker task =>
    rw [step] at h
    split at h <;> cases h
  | _ => cases h

end Arising

/-! ## The retry queue -/

theorem mem_enqueue {g : Gateway α} {payload p : α}
    (h : p ∈ (g.enqueue payload).1.queue.entries) : p ∈ g.queue.entries ∨ p = payload := by
  rw [enqueue, RetryQueue.enqueue] at h
  split at h
  · exact Or.inl h
  · exact Array.mem_push.mp h

theorem mem_enqueue_snd {g : Gateway α} {payload : α} {effect : Effect α}
    (h : effect ∈ (g.enqueue payload).2) :
    effect = .queued payload ∨ ∃ report, effect = .dropped payload report := by
  rw [enqueue] at h
  dsimp only at h
  split at h
  · exact Or.inr ⟨_, List.mem_singleton.mp h⟩
  · exact Or.inl (List.mem_singleton.mp h)

theorem mem_dispose {g : Gateway α} {role : Role} {payload p : α} {fault : PaymentFault}
    (h : p ∈ (g.dispose role payload fault).1.queue.entries) :
    p ∈ g.queue.entries ∨ (role ≠ .single ∧ p = payload) := by
  rw [dispose] at h
  split at h
  · exact Or.inl h
  next unowned =>
    split at h
    · exact (mem_enqueue h).imp_right fun same ↦ ⟨unowned, same⟩
    · exact Or.inl h

theorem batch_append (g : Gateway α) :
    g.batch ++ (g.queue.drain batchSize).2.entries.toList = g.queue.entries.toList := by
  -- the end of the second slice is the end of the queue, so taking up to it takes all
  have rest : (g.queue.entries.toList.drop batchSize).take (g.queue.entries.size - batchSize)
      = g.queue.entries.toList.drop batchSize := by
    refine List.take_of_length_le (Nat.le_of_eq ?_)
    rw [List.length_drop, Array.length_toList]
  rw [batch, RetryQueue.drain, Array.toList_extract, Array.toList_extract, RetryQueue.size,
    List.extract_eq_take_drop, List.extract_eq_take_drop, List.drop_zero, Nat.sub_zero, rest,
    List.take_append_drop]

theorem mem_of_mem_batch {g : Gateway α} {p : α} (h : p ∈ g.batch) : p ∈ g.queue.entries := by
  rw [← Array.mem_toList_iff, ← batch_append]
  exact List.mem_append_left _ h

theorem mem_of_mem_drain {g : Gateway α} {p : α}
    (h : p ∈ (g.queue.drain batchSize).2.entries) : p ∈ g.queue.entries := by
  rw [← Array.mem_toList_iff, ← batch_append]
  exact List.mem_append_right _ (Array.mem_toList_iff.mpr h)

theorem mem_queue_step [Parcel α] {g : Gateway α} {event : Event α} {p : α}
    (h : p ∈ (g.step event).1.queue.entries) : p ∈ g.queue.entries ∨ Offered g event p := by
  have change := change_step g event
  generalize (g.step event).1 = after at change h
  cases change with
  | refuse handed =>
    rcases mem_enqueue h with before | rfl
    · exact Or.inl before
    · exact Or.inr (.ingested handed)
  | fail fault quiet there =>
    exact (mem_dispose h).imp_right fun ⟨unowned, same⟩ ↦ same ▸ .failed there unowned
  | fetch => exact Or.inl (mem_of_mem_drain h)
  | watch =>
    rw [setMonitor_eq] at h
    exact Or.inl h
  | _ => exact Or.inl h

/-! ## From steps to runs -/

section Runs

variable [Parcel α]

theorem run_cons (g : Gateway α) (event : Event α) (events : List (Event α)) :
    g.run (event :: events) = (((g.step event).1.run events).1,
      (g.step event).2 ++ ((g.step event).1.run events).2) := rfl

theorem run_append (g : Gateway α) (before after : List (Event α)) :
    g.run (before ++ after) = (((g.run before).1.run after).1,
      (g.run before).2 ++ ((g.run before).1.run after).2) := by
  induction before generalizing g with
  | nil => rfl
  | cons event events ih =>
    rw [List.cons_append, run_cons, ih, run_cons, List.append_assoc]

theorem exists_step_of_mem_run {g : Gateway α} {events : List (Event α)} {effect : Effect α}
    (h : effect ∈ (g.run events).2) :
    ∃ before event after, events = before ++ event :: after ∧
      effect ∈ ((g.run before).1.step event).2 := by
  induction events generalizing g with
  | nil => cases h
  | cons event events ih =>
    rw [run_cons] at h
    rcases List.mem_append.mp h with now | later
    · exact ⟨[], event, events, rfl, now⟩
    · obtain ⟨before, event', after, rfl, there⟩ := ih later
      exact ⟨event :: before, event', after, rfl, there⟩

theorem run_induction {I : Gateway α → Prop} {events : List (Event α)}
    (kept : ∀ g, ∀ event ∈ events, I g → I (g.step event).1) {g : Gateway α} (h : I g) :
    I (g.run events).1 := by
  induction events generalizing g with
  | nil => exact h
  | cons event events ih =>
    rw [run_cons]
    exact ih (fun g e he ↦ kept g e (List.mem_cons_of_mem event he))
      (kept g event List.mem_cons_self h)

/-- What a task begins with and no turn takes away holds of every task, if it held of all tasks that
were there. -/
theorem forall_tasks_run {I : Task α → Prop} {events : List (Event α)}
    (begun : ∀ event ∈ events, ∀ u, event.begun? = some u → I u)
    (turn : ∀ (g : Gateway α) (t u : Task α), Turn g t u → I t → I u) {g : Gateway α}
    (h : ∀ (i : Nat) (t : Task α), g.tasks[i]? = some t → I t) {i : Nat} {u : Task α}
    (there : (g.run events).1.tasks[i]? = some u) : I u := by
  -- of all tasks at once, since a step may wake any of them
  refine run_induction (I := fun g ↦ ∀ (i : Nat) (t : Task α), g.tasks[i]? = some t → I t)
    (fun g event he ih i u there ↦ ?_) h i u there
  rcases turn_step there with ⟨t, before, turned⟩ | ⟨-, new⟩
  · exact turn g t u turned (ih i t before)
  · exact begun event he u new

end Runs

end Gateway

end PaymentRelay
