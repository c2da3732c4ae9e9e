import PaymentRelay.Edge.Fault
import PaymentRelay.Proofs.Text.Forms

/-!
# Which window is asked for

A query may give values for the ends of the window many times over, between any other pairs. The
window depends on two questions, whether any of these values is no timestamp and which is the last
one for each end, and for neither does it matter how the values for one end and for the other are
interleaved. So the loop over the pairs is taken apart first, into a search for the first fault and
a list of instants for each end, and everything else is read off that equation.
-/

namespace PaymentRelay.Window

variable {name value : String} {p : String × String} {ps qs : List (String × String)}
  {side : Side} {t now : Instant} {scope : Scope}

/-! ## What a query gives for an end -/

/-- The pair gives a value for an end. -/
def NamesEnd (p : String × String) : Prop := p.1 = Side.start.name ∨ p.1 = Side.stop.name

instance : DecidablePred NamesEnd := fun _ ↦ inferInstanceAs (Decidable (_ ∨ _))

/-- The values that a query gives for an end, in order. -/
def Side.values (side : Side) (ps : List (String × String)) : List String :=
  (ps.filter fun p ↦ p.1 = side.name).map Prod.snd

/-- The text is a timestamp. -/
def IsTimestamp (text : String) : Prop := ∃ t, Rfc3339.read (utf8 text) = .ok t

/-- What the values for an end come to: the last of them is read as `t`, and `otherwise` stands for
it if there is none. -/
def Chosen (values : List String) (otherwise t : Instant) : Prop :=
  match values.getLast? with
  | none => t = otherwise
  | some value => Rfc3339.read (utf8 value) = .ok t

theorem Side.mem_values : value ∈ side.values ps ↔ (side.name, value) ∈ ps := by
  simp [values]

theorem namesEnd_of_eq (h : p.1 = side.name) : NamesEnd p := by
  cases side with
  | start => exact Or.inl h
  | stop => exact Or.inr h

theorem Side.values_filter (side : Side) (ps : List (String × String)) :
    side.values (ps.filter NamesEnd) = side.values ps := by
  rw [values, values, List.filter_filter]
  congr 1
  refine List.filter_congr fun p _ ↦ ?_
  simpa only [Bool.and_eq_left_iff_imp, decide_eq_true_eq] using namesEnd_of_eq

theorem sideOf?_eq_some_iff : sideOf? name = some side ↔ name = side.name := by
  have distinct : Side.stop.name ≠ Side.start.name := by decide
  rw [sideOf?]
  cases side with
  | start =>
    split_ifs with start stop
    · simp [start]
    · simp [start]
    · simp [start]
  | stop =>
    split_ifs with start stop
    · simp [start, distinct.symm]
    · simp [stop]
    · simp [stop]

/-! ## The loop taken apart -/

/-- The instants that a query names for an end, in order. -/
def Side.instants (side : Side) (ps : List (String × String)) : List Instant :=
  (side.values ps).filterMap fun value ↦ (Rfc3339.read (utf8 value)).toOption

/-- What is wrong with a pair. -/
def fault? (p : String × String) : Option Fault :=
  (sideOf? p.1).bind fun side ↦
    match Rfc3339.read (utf8 p.2) with
    | .ok _ => none
    | .error cause => some ⟨side, p.2, cause⟩

theorem Side.values_cons_self (side : Side) (value : String) (ps : List (String × String)) :
    side.values ((side.name, value) :: ps) = value :: side.values ps := by
  simp [values]

theorem Side.values_cons_of_ne (other : name ≠ side.name) :
    side.values ((name, value) :: ps) = side.values ps := by
  simp [values, other]

theorem Side.instants_cons_self (read : Rfc3339.read (utf8 value) = .ok t) :
    side.instants ((side.name, value) :: ps) = t :: side.instants ps := by
  rw [instants, values_cons_self, List.filterMap_cons_some (b := t) (by rw [read]; rfl), instants]

theorem Side.instants_cons_of_ne (other : name ≠ side.name) :
    side.instants ((name, value) :: ps) = side.instants ps := by
  rw [instants, values_cons_of_ne other, instants]

/-- **The loop** fails with the first fault, and without one it finds the last instant for each
end. -/
theorem endsFrom_eq (ends : Ends) (ps : List (String × String)) :
    endsFrom ends ps =
      match ps.findSome? fault? with
      | none => .ok ⟨(Side.start.instants ps).getLast?.or ends.start,
          (Side.stop.instants ps).getLast?.or ends.stop⟩
      | some fault => .error fault := by
  have distinct : Side.start.name ≠ Side.stop.name := by decide
  induction ps generalizing ends with
  | nil => rfl
  | cons p ps ih =>
    obtain ⟨name, value⟩ := p
    rw [endsFrom, List.findSome?_cons, fault?]
    cases named : sideOf? name with
    | none =>
      have other (side : Side) : name ≠ side.name := by
        intro h
        rw [sideOf?_eq_some_iff.mpr h] at named
        cases named
      rw [Side.instants_cons_of_ne (other .start), Side.instants_cons_of_ne (other .stop)]
      exact ih ends
    | some side =>
      obtain rfl := sideOf?_eq_some_iff.mp named
      cases read : Rfc3339.read (utf8 value) with
      | error cause => simp
      | ok t =>
        -- the instant takes the place of what was there, and a later one takes its place
        simp only [Option.bind_some, ih]
        cases side with
        | start =>
          rw [Side.instants_cons_self read, Side.instants_cons_of_ne distinct]
          simp [List.getLast?_cons, Ends.set]
        | stop =>
          rw [Side.instants_cons_self read, Side.instants_cons_of_ne distinct.symm]
          simp [List.getLast?_cons, Ends.set]

theorem asked_query (ps : List (String × String)) (scope : Scope) (now : Instant) :
    asked (some (Form.query ps)) scope now =
      match ps.findSome? fault? with
      | none => .ok ⟨(Side.start.instants ps).getLast?.getD (now.before scope.lookback),
          (Side.stop.instants ps).getLast?.getD now⟩
      | some fault => .error (.bad (.window fault)) := by
  rw [asked, ofQuery, Option.getD_some, Form.pairs_utf8_query, endsFrom_eq]
  cases ps.findSome? fault? with
  | none => simp [Except.map, Except.mapError]
  | some fault => rfl

/-! ## Faults and instants in terms of the values -/

theorem fault?_eq_some_iff {fault : Fault} : fault? p = some fault ↔
    p = (fault.side.name, fault.value) ∧
      Rfc3339.read (utf8 fault.value) = .error fault.cause := by
  rw [fault?, Option.bind_eq_some_iff]
  constructor
  · rintro ⟨side, named, h⟩
    split at h
    · cases h
    · next cause read =>
      cases h
      exact ⟨Prod.ext (sideOf?_eq_some_iff.mp named) rfl, read⟩
  · rintro ⟨rfl, read⟩
    refine ⟨fault.side, sideOf?_eq_some_iff.mpr rfl, ?_⟩
    rw [read]

theorem fault?_eq_none_iff :
    fault? p = none ↔ ∀ side : Side, p.1 = side.name → IsTimestamp p.2 := by
  rw [Option.eq_none_iff_forall_ne_some]
  constructor
  · intro sound side named
    cases read : Rfc3339.read (utf8 p.2) with
    | ok t => exact ⟨t, read⟩
    | error cause =>
      have faulty : fault? p = some ⟨side, p.2, cause⟩ :=
        fault?_eq_some_iff.mpr ⟨Prod.ext named rfl, read⟩
      exact absurd faulty (sound _)
  · rintro stamp fault faulty
    obtain ⟨rfl, read⟩ := fault?_eq_some_iff.mp faulty
    obtain ⟨t, reads⟩ := stamp fault.side rfl
    cases reads.symm.trans read

theorem findSome?_fault?_eq_none_iff : ps.findSome? fault? = none ↔
    ∀ side : Side, ∀ value ∈ side.values ps, IsTimestamp value := by
  simp only [List.findSome?_eq_none_iff, fault?_eq_none_iff, Side.mem_values]
  constructor
  · intro sound side value there
    exact sound (side.name, value) there side rfl
  · rintro stamps ⟨name, value⟩ there side rfl
    exact stamps side value there

/-- Only pairs that give values for an end can be wrong. -/
theorem findSome?_fault?_filter (ps : List (String × String)) :
    (ps.filter NamesEnd).findSome? fault? = ps.findSome? fault? := by
  induction ps with
  | nil => rfl
  | cons p ps ih =>
    by_cases named : NamesEnd p
    · rw [List.filter_cons_of_pos (by simpa using named), List.findSome?_cons,
        List.findSome?_cons, ih]
    · have sound : fault? p = none :=
        fault?_eq_none_iff.mpr fun _ h ↦ absurd (namesEnd_of_eq h) named
      rw [List.filter_cons_of_neg (by simpa using named), List.findSome?_cons, sound, ih]

/-- Among timestamps, the last value is the one that the last instant was read from. -/
theorem chosen_iff {values : List String} {otherwise : Instant}
    (stamps : ∀ value ∈ values, IsTimestamp value) :
    Chosen values otherwise t ↔
      t = (values.filterMap fun value ↦ (Rfc3339.read (utf8 value)).toOption).getLast?.getD
        otherwise := by
  rcases values.eq_nil_or_concat with rfl | ⟨earlier, last, rfl⟩
  · rfl
  · obtain ⟨read, reads⟩ := stamps last (by simp)
    simp [Chosen, List.filterMap_append, reads, Except.toOption, eq_comm]

theorem message_bad (fault : Fault) : (RequestFault.bad (.window fault)).message =
    "Bad request: " ++ ("invalid `" ++ fault.side.name ++ "` timestamp " ++
      Text.quote fault.value ++ ": " ++ fault.cause.message) :=
  rfl

/-! ## Which window is asked for -/

theorem exists_asked_eq_ok_iff : (∃ w, asked (some (Form.query ps)) scope now = .ok w) ↔
    ∀ side : Side, ∀ value ∈ side.values ps, IsTimestamp value := by
  rw [asked_query, ← findSome?_fault?_eq_none_iff]
  cases ps.findSome? fault? with
  | none => simp
  | some fault => simp

theorem asked_eq_ok_iff {w : Window} : asked (some (Form.query ps)) scope now = .ok w ↔
    (∀ side : Side, ∀ value ∈ side.values ps, IsTimestamp value) ∧
      Chosen (Side.start.values ps) (now.before scope.lookback) w.start ∧
      Chosen (Side.stop.values ps) now w.stop := by
  rw [asked_query, ← findSome?_fault?_eq_none_iff]
  cases first : ps.findSome? fault? with
  | some fault => simp
  | none =>
    have stamps := findSome?_fault?_eq_none_iff.mp first
    rw [chosen_iff (stamps .start), chosen_iff (stamps .stop)]
    obtain ⟨start, stop⟩ := w
    simp [Side.instants, eq_comm]

theorem asked_eq_error_iff {fault : RequestFault} :
    asked (some (Form.query ps)) scope now = .error fault ↔
      ∃ before side value after cause, ps = before ++ (Side.name side, value) :: after ∧
        (∀ side : Side, ∀ value ∈ side.values before, IsTimestamp value) ∧
        Rfc3339.read (utf8 value) = .error cause ∧ fault = .bad (.window ⟨side, value, cause⟩) := by
  have refused : asked (some (Form.query ps)) scope now = .error fault ↔
      ∃ f, ps.findSome? fault? = some f ∧ fault = .bad (.window f) := by
    rw [asked_query]
    cases ps.findSome? fault? with
    | none => simp
    | some f => simp [eq_comm]
  simp only [refused, List.findSome?_eq_some_iff, ← List.findSome?_eq_none_iff,
    findSome?_fault?_eq_none_iff, fault?_eq_some_iff]
  constructor
  · rintro ⟨f, ⟨before, p, after, split, ⟨rfl, read⟩, sound⟩, rfl⟩
    exact ⟨before, f.side, f.value, after, f.cause, split, sound, read, rfl⟩
  · rintro ⟨before, side, value, after, cause, split, sound, read, rfl⟩
    exact ⟨⟨side, value, cause⟩, ⟨before, _, after, split, ⟨rfl, read⟩, sound⟩, rfl⟩

/-- **The last value for each end counts, and all values must be timestamps.** A query written from
any pairs of texts is accepted exactly if every value for an end is a timestamp, those overridden
later included. The window then runs from the last value for its start, or the lookback before
`now`, to the last value for its end, or `now`, each whatever is given for the other. A query that
is not accepted is a bad request, by the first pair whose value is no timestamp. Pairs with other
names change nothing in any outcome, and a window that is accepted depends only on the values for
each end in their order. -/
theorem last_value_for_each_end (ps : List (String × String)) (scope : Scope) (now : Instant) :
    ((∃ w, asked (some (Form.query ps)) scope now = .ok w) ↔
      ∀ side : Side, ∀ value ∈ side.values ps, IsTimestamp value) ∧
    (∀ w, asked (some (Form.query ps)) scope now = .ok w →
      Chosen (Side.start.values ps) (now.before scope.lookback) w.start ∧
      Chosen (Side.stop.values ps) now w.stop) ∧
    (∀ fault, asked (some (Form.query ps)) scope now = .error fault →
      ∃ before side value after cause, ps = before ++ (Side.name side, value) :: after ∧
        (∀ side : Side, ∀ value ∈ side.values before, IsTimestamp value) ∧
        Rfc3339.read (utf8 value) = .error cause ∧
        fault = .bad (.window ⟨side, value, cause⟩) ∧ fault.status = 400 ∧
        fault.message = "Bad request: " ++ ("invalid `" ++ side.name ++ "` timestamp " ++
          Text.quote value ++ ": " ++ cause.message)) ∧
    asked (some (Form.query (ps.filter NamesEnd))) scope now =
      asked (some (Form.query ps)) scope now ∧
    ∀ qs, (∀ side : Side, side.values qs = side.values ps) → ∀ w,
      (asked (some (Form.query qs)) scope now = .ok w ↔
        asked (some (Form.query ps)) scope now = .ok w) := by
  refine ⟨exists_asked_eq_ok_iff, ?_, ?_, ?_, ?_⟩
  · intro w accepted
    rw [asked_eq_ok_iff] at accepted
    exact accepted.2
  · intro fault refused
    obtain ⟨before, side, value, after, cause, split, sound, read, rfl⟩ :=
      asked_eq_error_iff.mp refused
    exact ⟨before, side, value, after, cause, split, sound, read, rfl, rfl, message_bad _⟩
  · simp only [asked_query, findSome?_fault?_filter, Side.instants, Side.values_filter]
  · intro qs same w
    rw [asked_eq_ok_iff, asked_eq_ok_iff, same, same]
    simp only [same]

/-- A value that is overridden must be a timestamp as well. -/
example : asked (some "from=yesterday&from=2025-07-15T12:00:00Z") .merged ⟨0, 0⟩ =
    .error (.bad (.window ⟨.start, "yesterday", .tooShort⟩)) := by
  decide +kernel

end PaymentRelay.Window
