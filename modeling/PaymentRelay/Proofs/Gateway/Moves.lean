import PaymentRelay.Proofs.Gateway.Turns

/-!
# How payloads pass through hands

A payload reaches a task in one of two ways: it was handed in and got a task of its own, or it stood
in a batch that the task took from the retry queue. The task then attempts what it has taken, one
payload after the other. None of this is an effect of the gateway, so what a step does with payloads
is written down here as moves.

The moves of a run account for everything: what tasks have taken, begun and settled, what came out
of the retry queue in batches, and the payload of every fate that the run reports. The laws are
stated for one step, each as an equation between lists; equations between lists add up, and so they
hold for runs. They say of the retry queue that it is first come, first served, and of a batch that
each payload of it is attempted once, in order, and meets its fate when its attempt is over.
-/

namespace PaymentRelay

variable {α : Type}

/-- The payloads that a task has taken and not begun to attempt. -/
def Task.rest (t : Task α) : List α :=
  match t.activity with
  | .trying _ rest _ => rest
  | _ => []

/-- The payload that a task attempts, if it attempts one. -/
def Task.current (t : Task α) : List α :=
  match t.activity with
  | .trying attempt _ _ => [attempt.payload]
  | _ => []

namespace Gateway

/-- What is waiting for an attempt at a place where there may be a task. -/
def restOf (t : Option (Task α)) : List α := t.elim [] Task.rest

/-- What is attempted at a place where there may be a task. -/
def currentOf (t : Option (Task α)) : List α := t.elim [] Task.current

@[simp] theorem restOf_wake (t : Task α) : restOf (some t.wake) = restOf (some t) := by
  obtain ⟨role, _ | _ | _ | _⟩ := t <;> rfl

@[simp] theorem currentOf_wake (t : Task α) : currentOf (some t.wake) = currentOf (some t) := by
  obtain ⟨role, _ | _ | _ | _⟩ := t <;> rfl

/-! ## Moves -/

/-- What happens to payloads on their way. -/
inductive Move (α : Type) where
  /-- A task begins for a payload that was handed in. -/
  | given (task : Nat) (payload : α)
  /-- A payload was handed in when no slot was free. -/
  | refused (payload : α)
  /-- A task takes a batch from the retry queue. -/
  | drew (task : Nat) (batch : List α)
  /-- A task begins to attempt a payload. -/
  | began (task : Nat) (payload : α)
  /-- A task's attempt of a payload is over. -/
  | settled (task : Nat) (payload : α)
deriving DecidableEq, Repr

/-- A task goes on to the first of the payloads that it has left. -/
def takeUp (task : Nat) (rest : List α) : List (Move α) := (rest.head?.map (.began task)).toList

/-- The moves of a step. -/
def moves [Parcel α] (g : Gateway α) : Event α → List (Move α)
  | .ingest payload =>
    if g.freeSlots = 0 then [.refused payload]
    else .given g.tasks.size payload :: takeUp g.tasks.size [payload]
  | .process payload => .given g.tasks.size payload :: takeUp g.tasks.size [payload]
  | .run task requestedAt =>
    match g.tasks[task]? with
    | some ⟨_, .trying attempt rest _⟩ =>
      match g.look attempt requestedAt with
      | .ok _ => []
      | .error _ => .settled task attempt.payload :: takeUp task rest
    | some ⟨_, .due⟩ => .drew task g.batch :: takeUp task g.batch
    | _ => []
  | .answer task _ =>
    match g.tasks[task]? with
    | some ⟨_, .trying ⟨payload, .calling ..⟩ rest _⟩ => .settled task payload :: takeUp task rest
    | _ => []
  | _ => []

def history [Parcel α] (g : Gateway α) : List (Event α) → List (Move α)
  | [] => []
  | event :: events => g.moves event ++ (g.step event).1.history events

namespace Move

def taken (task : Nat) : Move α → List α
  | .given i payload => if i = task then [payload] else []
  | .drew i batch => if i = task then batch else []
  | _ => []

def begun (task : Nat) : Move α → List α
  | .began i payload => if i = task then [payload] else []
  | _ => []

def settles (task : Nat) : Move α → List α
  | .settled i payload => if i = task then [payload] else []
  | _ => []

/-- What is taken from the retry queue. -/
def drained : Move α → List α
  | .drew _ batch => batch
  | _ => []

/-- The payload whose fate is decided: its attempt is over, or there was no slot for it. -/
def decided : Move α → List α
  | .refused payload => [payload]
  | .settled _ payload => [payload]
  | _ => []

end Move

/-- What a task has taken, in order. -/
def takenBy (task : Nat) (moves : List (Move α)) : List α := moves.flatMap (Move.taken task)

/-- What a task has begun to attempt, in order. -/
def begunBy (task : Nat) (moves : List (Move α)) : List α := moves.flatMap (Move.begun task)

/-- What a task has attempted to the end, in order. -/
def settledBy (task : Nat) (moves : List (Move α)) : List α := moves.flatMap (Move.settles task)

/-- What was taken from the retry queue, in order. -/
def drained (moves : List (Move α)) : List α := moves.flatMap Move.drained

/-- The payloads whose fates were decided, in order. -/
def decided (moves : List (Move α)) : List α := moves.flatMap Move.decided

/-- The payload that is put into the retry queue with an effect. -/
def Effect.accepted : Effect α → List α
  | .queued payload => [payload]
  | _ => []

/-- The payload that meets its fate with an effect: it is recorded, discarded, given back, queued or
dropped. -/
def Effect.fated : Effect α → List α
  | .recorded _ _ payload _ _ => [payload]
  | .discarded _ payload _ => [payload]
  | .returned payload _ => [payload]
  | .queued payload => [payload]
  | .dropped payload _ => [payload]
  | .called .. | .finished .. | .rested _ => []

/-- What was put into the retry queue, in order. -/
def accepted (effects : List (Effect α)) : List α := effects.flatMap Effect.accepted

/-- The payloads that met a fate, in order. -/
def fated (effects : List (Effect α)) : List α := effects.flatMap Effect.fated

/-! ## The account of a step -/

/-- The moves say what became of tasks. -/
structure Handled (tasks : Array (Task α)) (moves : List (Move α)) (tasks' : Array (Task α)) :
    Prop where
  /-- What waited and was taken has been begun, or waits. -/
  taken (task : Nat) : restOf tasks[task]? ++ takenBy task moves
    = begunBy task moves ++ restOf tasks'[task]?
  /-- What was attempted and begun is settled, or is being attempted. -/
  begun (task : Nat) : currentOf tasks[task]? ++ begunBy task moves
    = settledBy task moves ++ currentOf tasks'[task]?

/-- The moves say what became of tasks and of the retry queue, and whose fates were reported. -/
structure Accounts (g : Gateway α) (moves : List (Move α)) (r : Gateway α × List (Effect α)) :
    Prop where
  handled : Handled g.tasks moves r.1.tasks
  /-- What waited and was accepted has been taken, or waits. -/
  queue : g.queue.entries.toList ++ accepted r.2 = drained moves ++ r.1.queue.entries.toList
  fates : fated r.2 = decided moves

section Lists

variable (task i : Nat) (rest : List α) (m : Move α) (ms ms' : List (Move α))

theorem takenBy_append : takenBy i (ms ++ ms') = takenBy i ms ++ takenBy i ms' :=
  List.flatMap_append

theorem begunBy_append : begunBy i (ms ++ ms') = begunBy i ms ++ begunBy i ms' :=
  List.flatMap_append

theorem settledBy_append : settledBy i (ms ++ ms') = settledBy i ms ++ settledBy i ms' :=
  List.flatMap_append

theorem drained_append : drained (ms ++ ms') = drained ms ++ drained ms' := List.flatMap_append

theorem decided_append : decided (ms ++ ms') = decided ms ++ decided ms' := List.flatMap_append

theorem accepted_append (es es' : List (Effect α)) :
    accepted (es ++ es') = accepted es ++ accepted es' := List.flatMap_append

theorem fated_append (es es' : List (Effect α)) :
    fated (es ++ es') = fated es ++ fated es' := List.flatMap_append

theorem takenBy_cons_takeUp : takenBy i (m :: takeUp task rest) = m.taken i := by
  cases rest <;> exact List.append_nil _

theorem settledBy_cons_takeUp : settledBy i (m :: takeUp task rest) = m.settles i := by
  cases rest <;> exact List.append_nil _

theorem drained_cons_takeUp : drained (m :: takeUp task rest) = m.drained := by
  cases rest <;> exact List.append_nil _

theorem decided_cons_takeUp : decided (m :: takeUp task rest) = m.decided := by
  cases rest <;> exact List.append_nil _

theorem begunBy_cons_takeUp (h : m.begun i = []) :
    begunBy i (m :: takeUp task rest) = if task = i then rest.head?.toList else [] := by
  have front : begunBy i (m :: takeUp task rest) = begunBy i (takeUp task rest) := by
    rw [begunBy, List.flatMap_cons, h]
    rfl
  rw [front]
  cases rest with
  | nil => exact (ite_self []).symm
  | cons payload rest => exact List.append_nil _

end Lists

/-! ### Tasks -/

section Tasks

variable {tasks tasks' : Array (Task α)} {ms ms' : List (Move α)}

theorem Handled.trans {tasks'' : Array (Task α)} (h : Handled tasks ms tasks')
    (h' : Handled tasks' ms' tasks'') : Handled tasks (ms ++ ms') tasks'' where
  taken i := by
    rw [takenBy_append, begunBy_append, ← List.append_assoc, h.taken, List.append_assoc, h'.taken,
      List.append_assoc]
  begun i := by
    rw [begunBy_append, settledBy_append, ← List.append_assoc, h.begun, List.append_assoc, h'.begun,
      List.append_assoc]

theorem Handled.of_same (h : ∀ i : Nat, restOf tasks'[i]? = restOf tasks[i]? ∧
    currentOf tasks'[i]? = currentOf tasks[i]?) : Handled tasks [] tasks' where
  taken i := by
    rw [(h i).1]
    exact List.append_nil _
  begun i := by
    rw [(h i).2]
    exact List.append_nil _

theorem Handled.refl : Handled tasks [] tasks := .of_same fun _ ↦ ⟨rfl, rfl⟩

theorem Handled.refuse (payload : α) : Handled tasks [.refused payload] tasks :=
  ⟨fun _ ↦ List.append_nil _, fun _ ↦ List.append_nil _⟩

theorem Handled.wake : Handled tasks [] (tasks.map Task.wake) := by
  refine .of_same fun i ↦ ?_
  rw [Array.getElem?_map]
  cases tasks[i]? with
  | none => exact ⟨rfl, rfl⟩
  | some t => exact ⟨restOf_wake t, currentOf_wake t⟩

theorem holds_next (role : Role) (rest : List α) (taken : Nat) :
    rest.head?.toList ++ Task.rest ⟨role, role.next rest taken⟩ = rest ∧
      Task.current ⟨role, role.next rest taken⟩ = rest.head?.toList := by
  cases rest with
  | cons payload rest => exact ⟨rfl, rfl⟩
  | nil =>
    cases role with
    | worker =>
      rw [Role.next]
      split <;> exact ⟨rfl, rfl⟩
    | _ => exact ⟨rfl, rfl⟩

/-- A task goes on with what it has left: with the rest of its batch, or with a batch that it has
just taken. The move before that is its own, and begins nothing. -/
theorem Handled.next {task : Nat} {role : Role} {t : Task α} {left : List α} {m : Move α}
    (there : tasks[task]? = some t) (taken : Nat) (idle : ∀ i, m.begun i = [])
    (own : ∀ i ≠ task, m.taken i = [] ∧ m.settles i = []) (holds : t.rest ++ m.taken task = left)
    (settles : t.current = m.settles task) :
    Handled tasks (m :: takeUp task left)
      (tasks.setIfInBounds task ⟨role, role.next left taken⟩) := by
  obtain ⟨waits, attempted⟩ := holds_next role left taken
  constructor
  · intro i
    rw [takenBy_cons_takeUp, begunBy_cons_takeUp task i left m (idle i)]
    by_cases same : i = task
    · subst same
      rw [Array.getElem?_setIfInBounds_self, if_pos (Array.getElem?_eq_some_iff.mp there).1, there,
        if_pos rfl]
      exact holds.trans waits.symm
    · rw [Array.getElem?_setIfInBounds_ne (Ne.symm same), (own i same).1, if_neg (Ne.symm same)]
      exact List.append_nil _
  · intro i
    rw [settledBy_cons_takeUp, begunBy_cons_takeUp task i left m (idle i)]
    by_cases same : i = task
    · subst same
      rw [Array.getElem?_setIfInBounds_self, if_pos (Array.getElem?_eq_some_iff.mp there).1, there,
        if_pos rfl]
      change t.current ++ _ = _ ++ Task.current ⟨role, role.next left taken⟩
      rw [settles, attempted]
    · rw [Array.getElem?_setIfInBounds_ne (Ne.symm same), (own i same).2, if_neg (Ne.symm same)]
      exact List.append_nil _

theorem Handled.settle {task : Nat} {role : Role} {attempt : Attempt α} {rest : List α}
    {taken : Nat} (there : tasks[task]? = some ⟨role, .trying attempt rest taken⟩) :
    Handled tasks (.settled task attempt.payload :: takeUp task rest)
      (tasks.setIfInBounds task ⟨role, role.next rest taken⟩) := by
  refine .next there taken (fun _ ↦ rfl) (fun _ other ↦ ⟨rfl, if_neg (Ne.symm other)⟩) ?_ ?_
  · exact List.append_nil rest
  · exact (if_pos rfl).symm

theorem Handled.draw {task : Nat} {role : Role} (batch : List α)
    (there : tasks[task]? = some ⟨role, .due⟩) :
    Handled tasks (.drew task batch :: takeUp task batch)
      (tasks.setIfInBounds task ⟨role, role.next batch batch.length⟩) :=
  .next there batch.length (fun _ ↦ rfl) (fun _ other ↦ ⟨if_neg (Ne.symm other), rfl⟩)
    (if_pos rfl) rfl

theorem Handled.set {task : Nat} {t t' : Task α} (there : tasks[task]? = some t)
    (rest : t'.rest = t.rest) (current : t'.current = t.current) :
    Handled tasks [] (tasks.setIfInBounds task t') := by
  refine .of_same fun i ↦ ?_
  by_cases same : i = task
  · subst same
    rw [Array.getElem?_setIfInBounds_self, if_pos (Array.getElem?_eq_some_iff.mp there).1, there]
    exact ⟨rest, current⟩
  · rw [Array.getElem?_setIfInBounds_ne (Ne.symm same)]
    exact ⟨rfl, rfl⟩

theorem Handled.give (role : Role) (payload : α) :
    Handled tasks (.given tasks.size payload :: takeUp tasks.size [payload])
      (tasks.push (.carrying role payload)) := by
  have own : (Move.given tasks.size payload).taken tasks.size = [payload] := if_pos rfl
  constructor
  · intro i
    rw [takenBy_cons_takeUp, begunBy_cons_takeUp _ _ _ _ rfl, Array.getElem?_push]
    by_cases last : i = tasks.size
    · rw [if_pos last, last, Array.getElem?_size, own, if_pos rfl]
      rfl
    · rw [if_neg last, if_neg (Ne.symm last), Move.taken, if_neg (Ne.symm last)]
      exact List.append_nil _
  · intro i
    rw [settledBy_cons_takeUp, begunBy_cons_takeUp _ _ _ _ rfl, Array.getElem?_push]
    by_cases last : i = tasks.size
    · rw [if_pos last, last, Array.getElem?_size, if_pos rfl]
      rfl
    · rw [if_neg last, if_neg (Ne.symm last)]
      exact List.append_nil _

theorem Handled.push_sweeping (role : Role) :
    Handled tasks [] (tasks.push (.sweeping role)) := by
  refine .of_same fun i ↦ ?_
  rw [Array.getElem?_push]
  split
  · next last =>
    rw [last, Array.getElem?_size]
    exact ⟨rfl, rfl⟩
  · exact ⟨rfl, rfl⟩

end Tasks

/-! ### The retry queue and the fates -/

section Steps

variable {g : Gateway α}

theorem silent_nextAttempt (g : Gateway α) (task : Nat) (role : Role) (rest : List α) (taken : Nat)
    (result : TaskResult) : accepted (g.nextAttempt task role rest taken result).2 = [] ∧
      fated (g.nextAttempt task role rest taken result).2 = [] := by
  constructor
  · refine List.flatMap_eq_nil_iff.mpr fun effect mem ↦ ?_
    rcases mem_nextAttempt_snd mem with ⟨result, rfl⟩ | rfl <;> rfl
  · refine List.flatMap_eq_nil_iff.mpr fun effect mem ↦ ?_
    rcases mem_nextAttempt_snd mem with ⟨result, rfl⟩ | rfl <;> rfl

theorem entries_enqueue (g : Gateway α) (payload : α) :
    g.queue.entries.toList ++ accepted (g.enqueue payload).2
        = (g.enqueue payload).1.queue.entries.toList ∧
      fated (g.enqueue payload).2 = [payload] := by
  rw [enqueue, RetryQueue.enqueue]
  split
  · exact ⟨List.append_nil _, rfl⟩
  · exact ⟨Array.toList_push.symm, rfl⟩

theorem entries_dispose (g : Gateway α) (role : Role) (payload : α) (fault : PaymentFault) :
    g.queue.entries.toList ++ accepted (g.dispose role payload fault).2
        = (g.dispose role payload fault).1.queue.entries.toList ∧
      fated (g.dispose role payload fault).2 = [payload] := by
  rw [dispose]
  split
  · exact ⟨List.append_nil _, rfl⟩
  split
  · exact g.entries_enqueue payload
  · exact ⟨List.append_nil _, rfl⟩

theorem Accounts.of_quiet {r : Gateway α × List (Effect α)} (handled : Handled g.tasks [] r.1.tasks)
    (queue : r.1.queue = g.queue) (silent : accepted r.2 = [] ∧ fated r.2 = []) :
    Accounts g [] r where
  handled := handled
  queue := by
    rw [queue, silent.1]
    exact List.append_nil _
  fates := silent.2

theorem Accounts.trans {g' g'' : Gateway α} {ms ms' : List (Move α)} {es es' : List (Effect α)}
    (h : Accounts g ms (g', es)) (h' : Accounts g' ms' (g'', es')) :
    Accounts g (ms ++ ms') (g'', es ++ es') where
  handled := h.handled.trans h'.handled
  queue := by
    rw [accepted_append, ← List.append_assoc, h.queue, List.append_assoc, h'.queue, drained_append,
      List.append_assoc]
  fates := by
    rw [fated_append, h.fates, h'.fates, decided_append]

theorem accounts_failAttempt {task : Nat} {role : Role} {attempt : Attempt α} {rest : List α}
    {taken : Nat} (there : g.tasks[task]? = some ⟨role, .trying attempt rest taken⟩)
    (fault : PaymentFault) :
    Accounts g (.settled task attempt.payload :: takeUp task rest)
      (g.failAttempt task role attempt rest taken fault) := by
  obtain ⟨entries, fate⟩ := entries_dispose g role attempt.payload fault
  have silent := silent_nextAttempt (g.dispose role attempt.payload fault).1 task role rest taken
    (.failed fault)
  refine ⟨?_, ?_, ?_⟩
  · rw [failAttempt_fst]
    exact .settle there
  · rw [failAttempt_fst, drained_cons_takeUp, failAttempt]
    dsimp only
    rw [accepted_append, silent.1, List.append_nil]
    exact entries
  · rw [decided_cons_takeUp, failAttempt]
    dsimp only
    rw [fated_append, silent.2, fate]
    rfl

theorem accounts_recordAttempt {task : Nat} {role : Role} {attempt : Attempt α} {rest : List α}
    {taken : Nat} (there : g.tasks[task]? = some ⟨role, .trying attempt rest taken⟩)
    (payment : Payment) (source : Source) (requestedAt : Millis) :
    Accounts g (.settled task attempt.payload :: takeUp task rest)
      (g.recordAttempt task role attempt.payload payment source requestedAt rest taken) := by
  have silent := silent_nextAttempt
    { g with ledger := g.ledger.save source requestedAt payment.amount } task role rest taken
    .recorded
  refine ⟨?_, ?_, ?_⟩
  · rw [recordAttempt_fst]
    exact .settle there
  · rw [recordAttempt_fst, drained_cons_takeUp]
    exact (congrArg (g.queue.entries.toList ++ ·) silent.1).trans (List.append_nil _)
  · rw [decided_cons_takeUp]
    exact congrArg (attempt.payload :: ·) silent.2

theorem accounts_takeBatch {task : Nat} {role : Role} (there : g.tasks[task]? = some ⟨role, .due⟩) :
    Accounts g (.drew task g.batch :: takeUp task g.batch) (g.takeBatch task role) := by
  have silent := silent_nextAttempt { g with queue := (g.queue.drain batchSize).2 } task role
    g.batch g.batch.length (.swept g.batch.length)
  refine ⟨?_, ?_, ?_⟩
  · rw [takeBatch_fst]
    exact .draw g.batch there
  · rw [takeBatch_fst, drained_cons_takeUp]
    refine (congrArg (g.queue.entries.toList ++ ·) silent.1).trans ?_
    rw [List.append_nil]
    exact g.batch_append.symm
  · rw [decided_cons_takeUp]
    exact silent.2

theorem accounts_setMonitor (source : Source) (monitor : Monitor) :
    Accounts g [] (g.setMonitor source monitor, []) := by
  refine .of_quiet ?_ (by rw [setMonitor_eq]) ⟨rfl, rfl⟩
  rcases g.setMonitor_tasks source monitor with same | woken
  · exact same.symm ▸ .refl
  · exact woken.symm ▸ .wake

theorem silent_callOf (task : Nat) (payload : α) (before after : Stage) :
    accepted (callOf task payload before after) = [] ∧
      fated (callOf task payload before after) = [] := by
  unfold callOf
  split <;> exact ⟨rfl, rfl⟩

variable [Parcel α]

theorem accounts_runTask (task : Nat) (requestedAt : Millis) :
    Accounts g (g.moves (.run task requestedAt)) (g.runTask task requestedAt) := by
  rw [moves, runTask]
  rcases there : g.tasks[task]? with _ | ⟨role, activity⟩
  · exact .of_quiet .refl rfl ⟨rfl, rfl⟩
  cases activity with
  | trying attempt rest taken =>
    dsimp only
    rcases looked : g.look attempt requestedAt with fault | stage
    · exact accounts_failAttempt there _
    · exact .of_quiet (.set there rfl rfl) rfl (silent_callOf task _ _ stage)
  | due => exact accounts_takeBatch there
  | resting => exact .of_quiet .refl rfl ⟨rfl, rfl⟩
  | finished => exact .of_quiet .refl rfl ⟨rfl, rfl⟩

theorem accounts_answerTask (task : Nat) (outcome : ProcessorOutcome) :
    Accounts g (g.moves (.answer task outcome)) (g.answerTask task outcome) := by
  rw [moves, answerTask]
  rcases there : g.tasks[task]? with _ | ⟨role, activity⟩
  · exact .of_quiet .refl rfl ⟨rfl, rfl⟩
  cases activity with
  | trying attempt rest taken =>
    obtain ⟨payload, stage⟩ := attempt
    cases stage with
    | calling payment source requestedAt =>
      rcases outcome with _ | fault
      · exact accounts_recordAttempt there payment source requestedAt
      · exact accounts_failAttempt there _
    | _ => exact .of_quiet .refl rfl ⟨rfl, rfl⟩
  | _ => exact .of_quiet .refl rfl ⟨rfl, rfl⟩

theorem accounts_ingest (payload : α) :
    Accounts g (g.moves (.ingest payload)) (g.ingest payload) := by
  rw [moves, ingest]
  split
  · obtain ⟨entries, fate⟩ := g.entries_enqueue payload
    exact ⟨.refuse payload, entries, fate⟩
  · exact ⟨.give .dispatch payload, List.append_nil _, rfl⟩

/-- **The moves of a step account for it.** -/
theorem accounts_step (event : Event α) : Accounts g (g.moves event) (g.step event) := by
  cases event with
  | ingest payload => exact accounts_ingest payload
  | process payload => exact ⟨.give .single payload, List.append_nil _, rfl⟩
  | sweep => exact .of_quiet (.push_sweeping .sweep) rfl ⟨rfl, rfl⟩
  | startWorker => exact .of_quiet (.push_sweeping .worker) rfl ⟨rfl, rfl⟩
  | run task requestedAt => exact accounts_runTask task requestedAt
  | answer task outcome => exact accounts_answerTask task outcome
  | wakeWorker task =>
    rw [step]
    split
    · next role there => exact .of_quiet (.set there rfl rfl) rfl ⟨rfl, rfl⟩
    · exact .of_quiet .refl rfl ⟨rfl, rfl⟩
  | markDown source now => exact accounts_setMonitor source _
  | markUp source => exact accounts_setMonitor source _
  | expire source deadline => exact accounts_setMonitor source _
  | purge => exact .of_quiet .refl rfl ⟨rfl, rfl⟩

/-- **The history of a run accounts for it.** -/
theorem accounts_run (events : List (Event α)) : Accounts g (g.history events) (g.run events) := by
  induction events generalizing g with
  | nil => exact .of_quiet .refl rfl ⟨rfl, rfl⟩
  | cons event events ih => exact (accounts_step event).trans ih

end Steps

end Gateway

end PaymentRelay
