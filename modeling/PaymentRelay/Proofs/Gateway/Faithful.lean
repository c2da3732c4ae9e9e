import PaymentRelay.Proofs.Gateway.Turns

/-!
# What is sent is what a payload says

An attempt reads its payload once, and from then on carries the payment that it found there,
whatever else happens. So a processor is only ever called with what a payload says, what is recorded
is what a payload says, and a payload that says no payment leads to neither, on no way through the
gateway.
-/

namespace PaymentRelay

/-- The payment that an attempt carries once its payload has been read. -/
def Stage.payment? : Stage → Option Payment
  | .received => none
  | .choosing payment | .second payment | .waking payment | .parked payment => some payment
  | .calling payment _ _ => some payment

namespace Gateway

variable {α : Type}

/-! ## An attempt carries the payment that its payload says -/

/-- If the task attempts a payload and has read it, it has the payment that the payload says. -/
def Faithful [Parcel α] (t : Task α) : Prop :=
  ∀ attempt, t.attempt? = some attempt → ∀ payment, attempt.stage.payment? = some payment →
    Payload.read (Parcel.text attempt.payload) = .ok payment

theorem look_payment [Parcel α] {g : Gateway α} {attempt : Attempt α} {requestedAt : Millis}
    {stage : Stage} {payment : Payment} (h : g.look attempt requestedAt = .ok stage)
    (found : stage.payment? = some payment) :
    attempt.stage.payment? = some payment ∨
      Payload.read (Parcel.text attempt.payload) = .ok payment := by
  obtain ⟨payload, before⟩ := attempt
  cases before with
  | received =>
    -- the payload is read here, and nowhere else
    rw [look] at h
    dsimp only at h
    cases read : Payload.read (Parcel.text payload) with
    | error fault =>
      rw [read] at h
      cases h
    | ok p =>
      rw [read] at h
      cases h
      exact Or.inr (congrArg Except.ok (Option.some.inj found))
  | choosing p =>
    cases h
    split at found
    · exact Or.inl found
    split at found <;> exact Or.inl found
  | second p =>
    cases h
    split at found <;> exact Or.inl found
  | waking p =>
    cases h
    split at found <;> exact Or.inl found
  | parked p =>
    cases h
    exact Or.inl found
  | calling p source at_ =>
    cases h
    exact Or.inl found

theorem look_error [Parcel α] {g : Gateway α} {attempt : Attempt α} {requestedAt : Millis}
    {fault : Payload.Fault} (h : g.look attempt requestedAt = .error fault) :
    Payload.read (Parcel.text attempt.payload) = .error fault := by
  obtain ⟨payload, before⟩ := attempt
  cases before with
  | received =>
    rw [look] at h
    dsimp only at h
    cases read : Payload.read (Parcel.text payload) with
    | error fault =>
      rw [read] at h
      cases h
      rfl
    | ok p =>
      rw [read] at h
      cases h
  | _ => cases h

theorem wake_payment? (stage : Stage) : stage.wake.payment? = stage.payment? := by
  cases stage <;> rfl

theorem faithful_next [Parcel α] (role : Role) (rest : List α) (taken : Nat) :
    Faithful ⟨role, role.next rest taken⟩ := by
  intro attempt here payment found
  rw [Role.attempt?_next] at here
  obtain ⟨payload, -, rfl⟩ := Option.map_eq_some_iff.mp here
  cases found

theorem faithful_turn [Parcel α] (g : Gateway α) (t u : Task α) (turn : Turn g t u)
    (h : Faithful t) : Faithful u := by
  cases turn with
  | stay => exact h
  | wake =>
    obtain ⟨role, _ | ⟨attempt, rest, taken⟩ | _ | _⟩ := t
    · exact h
    · intro woken here payment found
      cases here
      rw [wake_payment?] at found
      exact h attempt rfl payment found
    · exact h
    · exact h
  | @look role attempt rest taken requestedAt stage looked =>
    intro moved here payment found
    cases here
    rcases look_payment looked found with had | read
    · exact h attempt rfl payment had
    · exact read
  | settle role attempt rest taken => exact faithful_next role rest taken
  | fetch role => exact faithful_next role g.batch g.batch.length
  | rise role =>
    intro attempt here
    cases here

theorem faithful_begun [Parcel α] (event : Event α) (u : Task α) (h : event.begun? = some u) :
    Faithful u := by
  intro attempt here payment found
  cases event <;> cases h <;> cases here
  · cases found
  · cases found

/-- **Only payments that a payload says** are ever sent to a processor or recorded. -/
theorem read_of_mem_run [Parcel α] {terms : Terms} {events : List (Event α)} {task : Nat}
    {source : Source} {payload : α} {payment : Payment} {requestedAt : Millis}
    (h : .called task source payload payment requestedAt ∈ ((new terms).run events).2 ∨
      .recorded task source payload payment requestedAt ∈ ((new terms).run events).2) :
    Payload.read (Parcel.text payload) = .ok payment := by
  -- the effect arises in a step, and before that step every task was faithful
  have faithful : ∀ (before : List (Event α)) (i : Nat) (t : Task α),
      ((new terms).run before).1.tasks[i]? = some t → Faithful t := fun before i t there ↦
    forall_tasks_run (fun event _ ↦ faithful_begun event) faithful_turn
      (fun i t there ↦ by cases there) there
  rcases h with called | recorded
  · obtain ⟨before, event, after, -, step⟩ := exists_step_of_mem_run called
    cases arises_of_mem_step step with
    | called there fresh looked =>
      rcases look_payment looked rfl with had | read
      · exact faithful before _ _ there _ rfl _ had
      · exact read
    | enqueued offered done =>
      rcases mem_enqueue_snd done with other | ⟨report, other⟩ <;> cases other
  · obtain ⟨before, event, after, -, step⟩ := exists_step_of_mem_run recorded
    cases arises_of_mem_step step with
    | recorded there answered => exact faithful before _ _ there _ rfl _ rfl
    | enqueued offered done =>
      rcases mem_enqueue_snd done with other | ⟨report, other⟩ <;> cases other

/-- **Only a payload that says no payment** is ever dropped as invalid. -/
theorem read_of_discarded_mem_run [Parcel α] {g : Gateway α} {events : List (Event α)} {role : Role}
    {payload : α} {fault : PaymentFault} (h : .discarded role payload fault ∈ (g.run events).2) :
    ∃ cause, fault = .invalidPayload cause ∧ Payload.read (Parcel.text payload) = .error cause := by
  obtain ⟨before, event, after, -, step⟩ := exists_step_of_mem_run h
  cases arises_of_mem_step step with
  | discarded there unowned looked => exact ⟨_, rfl, look_error looked⟩
  | enqueued offered done =>
    rcases mem_enqueue_snd done with other | ⟨report, other⟩ <;> cases other

end Gateway

end PaymentRelay
