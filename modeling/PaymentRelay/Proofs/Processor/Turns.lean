import PaymentRelay.Proofs.Http.Front
import PaymentRelay.Proofs.Processor.Dialogue
import PaymentRelay.Proofs.Processor.Ownership

/-!
# What a step makes of a call, and of its connection

`Turn` lists all that a step can make of one call, whatever else it does: the call goes on, or it
ends. If it ends while it has a connection, it either gives the connection back, for it has read a
whole response, or the connection is closed and nobody has it any more.

What the call has come to depends on nothing but the octets that it has read. `heard` collects them
along a run, and `Fits` says what they are at each stage of the call.
-/

namespace PaymentRelay.Processor

/-- A call has ended without a response. -/
def Stage.Failed (stage : Stage) : Prop :=
  stage = .abandoned ∨ ∃ fault, stage = .finished (.refused (.ofTransport fault))

namespace Client

open Exchange (front)

/-! ## What a call reads -/

/-- What a call takes off its connection in a step. -/
def takes (c : Client) (a : Nat) : Event → Bytes
  | .read b =>
    if b = a then
      match c.calls[a]? with
      | some ⟨_, _, .reading i stage⟩ =>
        (c.links[i]?.elim [] Link.inbox).take (stage.room responseTerms)
      | _ => []
    else []
  | _ => []

/-- What a call has read in several steps, in order. -/
def heard (c : Client) (a : Nat) : List Event → Bytes
  | [] => []
  | event :: events => c.takes a event ++ (c.step event).heard a events

theorem heard_append (c : Client) (a : Nat) (events more : List Event) :
    c.heard a (events ++ more) = c.heard a events ++ (c.run events).heard a more := by
  induction events generalizing c with
  | nil => rfl
  | cons event events ih =>
    have rest := ih (c.step event)
    rw [List.cons_append, heard, heard, rest, List.append_assoc]
    rfl

/-- What a call has come to that has read these octets. -/
def Fits (octets : Bytes) : Stage → Prop
  | .waiting _ | .dialing | .leased _ => octets = []
  | .reading _ stage => stage.Holds responseTerms octets
  | .finished outcome =>
    (∃ answer body, front responseTerms.capacity octets = .response answer body ∧
        outcome = outcomeOf answer) ∨
      ((∀ answer body, front responseTerms.capacity octets ≠ .response answer body) ∧
        outcome.Untold)
  | .abandoned => True

/-! ## What becomes of a connection -/

/-- A connection is given to the pool, which keeps it if there is room. -/
def GaveBack (c c' : Client) (i : Nat) : Prop :=
  c'.pool = c.pool.put i ∧ c'.replacements = c.replacements

/-- A connection is closed and nobody has it; another is being dialed. -/
def Replaced (c c' : Client) (i : Nat) : Prop :=
  c'.pool = c.pool ∧ c'.replacements = c.replacements + 1 ∧
    (∀ l, c'.links[i]? = some l → l.isOpen = false) ∧ i ∉ c'.kept

/-- A call reads octets with which no response goes on. -/
def Misreads (octets : Bytes) (fault : Transport.Fault) : Stage → Prop
  | .reading _ stage => octets ≠ [] ∧ octets.length ≤ stage.room responseTerms ∧
      Exchange.feed responseTerms stage octets = .failed fault
  | _ => False

/-- What a step can make of a call that takes these octets in it. -/
inductive Turn (c c' : Client) (octets : Bytes) : Stage → Stage → Prop where
  /-- It is left alone. -/
  | stay (stage : Stage) (nothing : octets = []) : Turn c c' octets stage stage
  /-- It leases a connection. -/
  | lease (deadline : Ticks) (i : Nat) (nothing : octets = []) :
      Turn c c' octets (.waiting deadline) (.leased i)
  /-- It leaves the line. -/
  | expire (deadline : Ticks) (nothing : octets = []) :
      Turn c c' octets (.waiting deadline) .dialing
  /-- It has dialed a connection. -/
  | dial (i : Nat) (nothing : octets = []) : Turn c c' octets .dialing (.leased i)
  /-- It could not dial one. -/
  | undialed (fault : Transport.Fault) (nothing : octets = []) :
      Turn c c' octets .dialing (.finished (.refused (.transport fault)))
  /-- It has written its request. -/
  | write (i : Nat) (nothing : octets = []) :
      Turn c c' octets (.leased i) (.reading i (.line []))
  /-- It reads, and goes on. -/
  | read {i : Nat} {stage stage' : Exchange.Stage} (some_ : octets ≠ [])
      (room : octets.length ≤ stage.room responseTerms)
      (fed : Exchange.feed responseTerms stage octets = .reading stage') :
      Turn c c' octets (.reading i stage) (.reading i stage')
  /-- It reads, and has read a whole response. -/
  | complete {i : Nat} {stage : Exchange.Stage} {response : Exchange.Complete} (some_ : octets ≠ [])
      (room : octets.length ≤ stage.room responseTerms)
      (fed : Exchange.feed responseTerms stage octets = .complete response)
      (gave : GaveBack c c' i) :
      Turn c c' octets (.reading i stage) (.finished (outcomeOf response.answer))
  /-- It fails: it could not write its request, it reads what is no response, or the stream has
  ended or broken off. -/
  | failed {i : Nat} {stage : Stage} (fault : Transport.Fault) (held : stage.link? = some i)
      (why : octets = [] ∨ Misreads octets fault stage) (replaced : Replaced c c' i) :
      Turn c c' octets stage (.finished (.refused (.ofTransport fault)))
  /-- It is given up. -/
  | abandon (stage : Stage) (nothing : octets = [])
      (replaced : ∀ i, stage.link? = some i → Replaced c c' i) : Turn c c' octets stage .abandoned

section Turns

variable {c c' : Client} {a i : Nat} {call : Call} {stage stage' : Stage} {read octets : Bytes}

theorem front_nil : front responseTerms.capacity [] = .unfinished := by
  have holds : (Exchange.Stage.line []).Holds responseTerms [] :=
    Exchange.holds_start responseTerms
  exact Exchange.front_of_holds holds

theorem Fits.front_of_held (fits : Fits read stage) (held : stage.link? = some i) :
    front responseTerms.capacity read = .unfinished := by
  cases stage with
  | leased link =>
    have unread : read = [] := fits
    rw [unread, front_nil]
  | reading link stage => exact Exchange.front_of_holds fits
  | _ => cases held

theorem Fits.not_response {fault : Transport.Fault} (fits : Fits read stage)
    (held : stage.link? = some i) (why : octets = [] ∨ Misreads octets fault stage)
    (answer : Exchange.Answer) (body : Bytes) :
    front responseTerms.capacity (read ++ octets) ≠ .response answer body := by
  rcases why with rfl | misreads
  · rw [List.append_nil, fits.front_of_held held]
    exact nofun
  · cases stage with
    | reading link stage =>
      obtain ⟨some_, room, fed⟩ := misreads
      have holds := Exchange.holds_feed fits some_ room
      rw [fed] at holds
      have here : front responseTerms.capacity (read ++ octets) = .failed fault := holds
      rw [here]
      exact nofun
    | _ => cases misreads

/-- **A turn keeps to what has been read.** -/
theorem Fits.turn (fits : Fits read stage) (turn : Turn c c' octets stage stage') :
    Fits (read ++ octets) stage' := by
  cases turn with
  | stay stage nothing =>
    rw [nothing, List.append_nil]
    exact fits
  | lease deadline i nothing =>
    rw [nothing, List.append_nil]
    exact fits
  | expire deadline nothing =>
    rw [nothing, List.append_nil]
    exact fits
  | dial i nothing =>
    rw [nothing, List.append_nil]
    exact fits
  | undialed fault nothing =>
    have unread : read = [] := fits
    rw [nothing, unread]
    refine .inr ⟨fun answer body ↦ ?_, trivial⟩
    rw [List.append_nil, front_nil]
    exact nofun
  | write i nothing =>
    have unread : read = [] := fits
    rw [nothing, unread]
    exact Exchange.holds_start responseTerms
  | read some_ room fed =>
    have holds := Exchange.holds_feed fits some_ room
    rw [fed] at holds
    exact holds
  | complete some_ room fed gave =>
    have holds := Exchange.holds_feed fits some_ room
    rw [fed] at holds
    obtain ⟨body, here, -⟩ := holds
    exact .inl ⟨_, body, here, rfl⟩
  | failed fault held why replaced => exact .inr ⟨fits.not_response held why, .of_transport fault⟩
  | abandon stage nothing replaced => trivial

/-! ## Every step gives a call a turn -/

theorem giveBack_pool (c : Client) (i : Nat) : (c.giveBack i).pool = c.pool.put i := by
  rw [giveBack]
  split
  · rfl
  · next full => exact (if_neg full).symm

theorem giveBack_replacements (c : Client) (i : Nat) :
    (c.giveBack i).replacements = c.replacements := by
  rw [giveBack]
  split <;> rfl

theorem Owned.replaced_fail (owned : Owned c) (there : c.calls[a]? = some call)
    (held : call.stage.link? = some i) (stage : Stage) (free : stage.link? = none) :
    Replaced c (c.fail a i stage) i := by
  refine ⟨rfl, rfl, fun l here ↦ ?_, owned.free_of_drop there held (fail_calls ..) rfl free⟩
  rw [fail_links, Array.getElem?_modify, if_pos rfl, Option.map_eq_some_iff] at here
  obtain ⟨l, -, rfl⟩ := here
  rfl

theorem exists_turn_of_modify {b : Nat} {call' : Call} {stage' : Stage}
    (there : c.calls[a]? = some call) (there' : c.calls[b]? = some call')
    (calls : c'.calls = c.calls.modify b ({ · with stage := stage' }))
    (turn : b = a → Turn c c' octets call'.stage stage') (other : b ≠ a → octets = []) :
    ∃ stage, c'.calls[a]? = some { call with stage } ∧ Turn c c' octets call.stage stage := by
  rw [calls, Array.getElem?_modify, there]
  by_cases same : b = a
  · rw [if_pos same]
    rw [same, there] at there'
    cases there'
    exact ⟨stage', rfl, turn same⟩
  · rw [if_neg same]
    exact ⟨call.stage, rfl, .stay _ (other same)⟩

theorem exists_turn_of_same (there : c.calls[a]? = some call) (calls : c'.calls = c.calls)
    (nothing : octets = []) :
    ∃ stage, c'.calls[a]? = some { call with stage } ∧ Turn c c' octets call.stage stage :=
  ⟨call.stage, by rw [calls, there], .stay _ nothing⟩

/-- A call that has its turn to read finds nothing to do, or that nothing will come any more, or
something to read. -/
theorem readStep_cases (c : Client) (b : Nat) :
    (c.readStep b = c ∧ c.takes b (.read b) = []) ∨
      ∃ payment requestedAt i stage, c.calls[b]? = some ⟨payment, requestedAt, .reading i stage⟩ ∧
        ((c.takes b (.read b) = [] ∧
            ∃ fault, c.readStep b = c.fail b i (.finished (.refused (.ofTransport fault)))) ∨
          (c.takes b (.read b) ≠ [] ∧ (c.takes b (.read b)).length ≤ stage.room responseTerms ∧
            c.readStep b = (Watched.drained c i (c.takes b (.read b)).length).proceed b i
              (Exchange.feed responseTerms stage (c.takes b (.read b))))) := by
  rw [takes, if_pos rfl]
  rcases there : c.calls[b]? with _ | ⟨payment, requestedAt, stage⟩
  · exact .inl ⟨by rw [readStep, there], rfl⟩
  cases stage with
  | reading i stage =>
    dsimp only
    rcases here : c.links[i]? with _ | l
    · exact .inl ⟨by simp only [readStep, there, here], by simp⟩
    · dsimp only [Option.elim]
      by_cases nothing : l.inbox.take (stage.room responseTerms) = []
      · have step := Watched.readStep_nothing there here nothing
        rcases ending : l.ending with _ | fault
        · rw [ending] at step
          exact .inl ⟨step, nothing⟩
        · rw [ending] at step
          exact .inr ⟨payment, requestedAt, i, stage, rfl, .inl ⟨nothing, fault, step⟩⟩
      · have step := Watched.readStep_octets there here rfl nothing
        have room := List.length_take_le (stage.room responseTerms) l.inbox
        exact .inr ⟨payment, requestedAt, i, stage, rfl, .inr ⟨nothing, room, step⟩⟩
  | _ => exact .inl ⟨by rw [readStep, there], rfl⟩

section Steps

variable (owned : Owned c) (there : c.calls[a]? = some call)

include there

include owned

theorem turn_lease : ∃ stage, c.leaseStep.calls[a]? = some { call with stage } ∧
    Turn c c.leaseStep [] call.stage stage := by
  rw [leaseStep]
  split
  · next b line i idle first front =>
    obtain ⟨other, deadline, there', waits⟩ := owned.waiting b (first ▸ List.mem_cons_self)
    refine exists_turn_of_modify there there' (setStage_calls ..) (fun _ ↦ ?_) fun _ ↦ rfl
    rw [waits]
    exact .lease deadline i rfl
  · exact exists_turn_of_same there rfl rfl

omit owned in
theorem turn_expire (b : Nat) : ∃ stage, (c.expireStep b).calls[a]? = some { call with stage } ∧
    Turn c (c.expireStep b) [] call.stage stage := by
  rw [expireStep]
  split
  · next payment requestedAt deadline there' =>
    exact exists_turn_of_modify there there' (setStage_calls ..) (fun _ ↦ .expire deadline rfl)
      fun _ ↦ rfl
  · exact exists_turn_of_same there rfl rfl

omit owned in
theorem turn_dial (b : Nat) (failure : Option Transport.Fault) :
    ∃ stage, (c.dialStep b failure).calls[a]? = some { call with stage } ∧
      Turn c (c.dialStep b failure) [] call.stage stage := by
  unfold dialStep
  split
  · next payment requestedAt there' =>
    split
    · exact exists_turn_of_modify there there' (setStage_calls ..) (fun _ ↦ .dial _ rfl)
        fun _ ↦ rfl
    · exact exists_turn_of_modify there there' (setStage_calls ..) (fun _ ↦ .undialed _ rfl)
        fun _ ↦ rfl
  · exact exists_turn_of_same there rfl rfl

omit owned in
theorem turn_replace (made : Bool) :
    ∃ stage, (c.replaceStep made).calls[a]? = some { call with stage } ∧
      Turn c (c.replaceStep made) [] call.stage stage := by
  refine exists_turn_of_same there ?_ rfl
  rw [replaceStep]
  split
  · rfl
  dsimp only
  split
  · exact giveBack_calls ..
  · rfl

theorem turn_write (b : Nat) (failure : Option Transport.Fault) :
    ∃ stage, (c.writeStep b failure).calls[a]? = some { call with stage } ∧
      Turn c (c.writeStep b failure) [] call.stage stage := by
  unfold writeStep
  split
  · next payment requestedAt i there' =>
    split
    · next fault =>
      have replaced := owned.replaced_fail there' rfl
        (.finished (.refused (.ofTransport fault))) rfl
      exact exists_turn_of_modify there there' (fail_calls ..)
        (fun _ ↦ .failed fault rfl (.inl rfl) replaced) fun _ ↦ rfl
    · exact exists_turn_of_modify there there' (setStage_calls ..) (fun _ ↦ .write i rfl)
        fun _ ↦ rfl
  · exact exists_turn_of_same there rfl rfl

theorem turn_abandon (b : Nat) : ∃ stage, (c.abandonStep b).calls[a]? = some { call with stage } ∧
    Turn c (c.abandonStep b) [] call.stage stage := by
  rw [abandonStep]
  split
  · next there' =>
    exact exists_turn_of_modify there there' (setStage_calls ..)
      (fun _ ↦ .abandon _ rfl fun _ held ↦ by cases held) fun _ ↦ rfl
  · next there' =>
    exact exists_turn_of_modify there there' (setStage_calls ..)
      (fun _ ↦ .abandon _ rfl fun _ held ↦ by cases held) fun _ ↦ rfl
  · next i there' =>
    have replaced := owned.replaced_fail there' rfl .abandoned rfl
    exact exists_turn_of_modify there there' (fail_calls ..)
      (fun _ ↦ .abandon _ rfl fun _ held ↦ Option.some.inj held ▸ replaced) fun _ ↦ rfl
  · next i stage there' =>
    have replaced := owned.replaced_fail there' rfl .abandoned rfl
    exact exists_turn_of_modify there there' (fail_calls ..)
      (fun _ ↦ .abandon _ rfl fun _ held ↦ Option.some.inj held ▸ replaced) fun _ ↦ rfl
  · exact exists_turn_of_same there rfl rfl

/-- A call that has its turn to read takes what there is, as much as it has room for. -/
theorem turn_read (b : Nat) : ∃ stage, (c.readStep b).calls[a]? = some { call with stage } ∧
    Turn c (c.readStep b) (c.takes a (.read b)) call.stage stage := by
  have other (ne : b ≠ a) : c.takes a (.read b) = [] := if_neg ne
  rcases readStep_cases c b with ⟨same, nothing⟩ | ⟨payment, requestedAt, i, stage, there', reads⟩
  · rw [same]
    refine exists_turn_of_same there rfl ?_
    by_cases mine : b = a
    · rw [← mine, nothing]
    · exact other mine
  rcases reads with ⟨nothing, fault, step⟩ | ⟨some_, room, step⟩
  · -- nothing has arrived and nothing will
    have replaced := owned.replaced_fail there' rfl
      (.finished (.refused (.ofTransport fault))) rfl
    rw [step]
    exact exists_turn_of_modify there there' (fail_calls ..)
      (fun mine ↦ .failed fault rfl (.inl (mine ▸ nothing)) replaced) other
  · have owned' := (owned.modify i fun l ↦
      { l with inbox := l.inbox.drop (c.takes b (.read b)).length }).owned
    rw [step]
    rcases fed : Exchange.feed responseTerms stage (c.takes b (.read b))
      with stage' | response | fault
    · refine exists_turn_of_modify there there' (setStage_calls ..) (fun mine ↦ ?_) other
      subst mine
      exact .read some_ room fed
    · have calls : ((Watched.drained c i (c.takes b (.read b)).length).proceed b i
          (.complete response)).calls
          = c.calls.modify b ({ · with stage := .finished (outcomeOf response.answer) }) := by
        rw [proceed, setStage_calls, giveBack_calls]
        exact rfl
      refine exists_turn_of_modify there there' calls (fun mine ↦ ?_) other
      subst mine
      exact .complete some_ room fed ⟨giveBack_pool .., giveBack_replacements ..⟩
    · have replaced := owned'.replaced_fail there' rfl
        (.finished (.refused (.ofTransport fault))) rfl
      refine exists_turn_of_modify there there' (fail_calls ..) (fun mine ↦ ?_) other
      subst mine
      exact .failed fault rfl (.inr ⟨some_, room, fed⟩) ⟨rfl, rfl, replaced.2.2⟩

/-- **Every step gives a call a turn.** -/
theorem turn_step (event : Event) : ∃ stage, (c.step event).calls[a]? = some { call with stage } ∧
    Turn c (c.step event) (c.takes a event) call.stage stage := by
  cases event with
  | call payment requestedAt now =>
    refine ⟨call.stage, ?_, .stay _ rfl⟩
    obtain ⟨within, -⟩ := Array.getElem?_eq_some_iff.mp there
    exact (Array.getElem?_push.trans (if_neg (Nat.ne_of_lt within))).trans there
  | warmed => exact exists_turn_of_same there (giveBack_calls ..) rfl
  | lease => exact turn_lease owned there
  | expire b => exact turn_expire there b
  | dialed b failure => exact turn_dial there b failure
  | replaced made => exact turn_replace there made
  | write b failure => exact turn_write owned there b failure
  | deliver link octets => exact exists_turn_of_same there rfl rfl
  | hangUp link ending => exact exists_turn_of_same there rfl rfl
  | read b => exact turn_read owned there b
  | abandon b => exact turn_abandon owned there b

end Steps

end Turns

/-! ## A run -/

section Runs

variable {c : Client} {a : Nat} {octets : Bytes}

theorem size_proceed (c : Client) (a i : Nat) (state : Exchange.State) :
    (c.proceed a i state).calls.size = c.calls.size := by
  cases state <;> simp [proceed]

theorem size_calls_step (c : Client) (event : Event) :
    (c.step event).calls.size = c.calls.size ∨
      ∃ payment requestedAt now, event = .call payment requestedAt now := by
  cases event with
  | call payment requestedAt now => exact .inr ⟨payment, requestedAt, now, rfl⟩
  | warmed => exact .inl (congrArg Array.size (giveBack_calls ..))
  | lease =>
    left
    rw [step, leaseStep]
    split <;> simp
  | expire b =>
    left
    rw [step, expireStep]
    split <;> simp
  | dialed b failure =>
    left
    simp only [step, dialStep]
    repeat' split
    all_goals simp
  | replaced made =>
    left
    simp only [step, replaceStep]
    repeat' split
    all_goals simp
  | write b failure =>
    left
    simp only [step, writeStep]
    repeat' split
    all_goals simp [size_proceed]
  | deliver link octets => exact .inl rfl
  | hangUp link ending => exact .inl rfl
  | read b =>
    left
    simp only [step, readStep]
    repeat' split
    all_goals simp [size_proceed]
  | abandon b =>
    left
    simp only [step, abandonStep]
    repeat' split
    all_goals simp

theorem takes_of_none (unbegun : c.calls[a]? = none) (event : Event) : c.takes a event = [] := by
  cases event with
  | read b =>
    rw [takes, unbegun]
    exact ite_self []
  | _ => rfl

theorem calls_step_of_none (unbegun : c.calls[a]? = none) (event : Event) {call : Call}
    (there : (c.step event).calls[a]? = some call) :
    ∃ deadline, call.stage = .waiting deadline := by
  have beyond : c.calls.size ≤ a := Array.getElem?_eq_none_iff.mp unbegun
  obtain ⟨within, -⟩ := Array.getElem?_eq_some_iff.mp there
  rcases size_calls_step c event with size | ⟨payment, requestedAt, now, rfl⟩
  · exact absurd (size ▸ within) (Nat.not_lt_of_le beyond)
  · have pushed : (c.calls.push ⟨payment, requestedAt, .waiting (now + c.terms.patience)⟩)[a]?
        = some call := there
    rw [Array.getElem?_push] at pushed
    split at pushed
    · cases pushed
      exact ⟨_, rfl⟩
    · rw [unbegun] at pushed
      cases pushed

/-- A call has come to what it has read, or it has not begun and has read nothing. -/
def Told (c : Client) (a : Nat) (octets : Bytes) : Prop :=
  match c.calls[a]? with
  | some call => Fits octets call.stage
  | none => octets = []

theorem Told.fits {call : Call} (told : c.Told a octets) (there : c.calls[a]? = some call) :
    Fits octets call.stage := by
  rwa [Told, there] at told

/-- **A step keeps to what has been read.** -/
theorem Told.step (told : c.Told a octets) (owned : Owned c) (event : Event) :
    (c.step event).Told a (octets ++ c.takes a event) := by
  cases there : c.calls[a]? with
  | none =>
    rw [Told, there] at told
    rw [takes_of_none there, told, Told]
    split
    · next call there' =>
      obtain ⟨deadline, waits⟩ := calls_step_of_none there event there'
      rw [waits]
      exact rfl
    · exact rfl
  | some call =>
    obtain ⟨stage, there', turn⟩ := turn_step owned there event
    rw [Told, there']
    exact (told.fits there).turn turn

/-- A run keeps to what has been read. -/
theorem Told.run (told : c.Told a octets) (owned : Owned c) (events : List Event) :
    (c.run events).Told a (octets ++ c.heard a events) := by
  -- what has been read so far grows with every step
  induction events generalizing c octets with
  | nil =>
    rw [heard, List.append_nil]
    exact told
  | cons event events ih =>
    have rest := ih (told.step owned event) (owned.step event).owned
    rwa [List.append_assoc] at rest

/-- **What a call has come to is told by what it has read**, whatever else has happened. -/
theorem fits_heard (terms : Terms) (size : Nat) (events : List Event) {call : Call}
    (there : ((new terms size).run events).calls[a]? = some call) :
    Fits ((new terms size).heard a events) call.stage := by
  have told : (new terms size).Told a [] := rfl
  exact (told.run (owned_new terms size) events).fits there

/-- **A call that ends while it has a connection** has read a whole response and gives the
connection back, or it has not and the connection is replaced. -/
theorem Fits.ended {c' : Client} {i : Nat} {stage stage' : Stage} {read : Bytes}
    (fits : Fits read stage) (turn : Turn c c' octets stage stage') (held : stage.link? = some i)
    (ended : stage'.link? = none) :
    (∃ answer body, front responseTerms.capacity (read ++ octets) = .response answer body ∧
        GaveBack c c' i ∧ stage' = .finished (outcomeOf answer)) ∨
      ((∀ answer body, front responseTerms.capacity (read ++ octets) ≠ .response answer body) ∧
        Replaced c c' i ∧ stage'.Failed) := by
  cases turn with
  | stay stage nothing =>
    rw [held] at ended
    cases ended
  | lease deadline i nothing => cases ended
  | expire deadline nothing => cases held
  | dial i nothing => cases held
  | undialed fault nothing => cases held
  | write i nothing => cases ended
  | read some_ room fed => cases ended
  | complete some_ room fed gave =>
    cases held
    have holds := Exchange.holds_feed fits some_ room
    rw [fed] at holds
    obtain ⟨body, here, -⟩ := holds
    exact .inl ⟨_, body, here, gave, rfl⟩
  | failed fault held' why replaced =>
    rw [held'] at held
    cases held
    exact .inr ⟨fits.not_response held' why, replaced, .inr ⟨fault, rfl⟩⟩
  | abandon stage nothing replaced =>
    refine .inr ⟨fun answer body ↦ ?_, replaced i held, .inl rfl⟩
    rw [nothing, List.append_nil, fits.front_of_held held]
    exact nofun

end Runs

end Client

end PaymentRelay.Processor
