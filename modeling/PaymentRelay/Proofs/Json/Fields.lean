import PaymentRelay.Proofs.Json.Written

/-!
# The members of an object

A record is read by somebody who knows the names that he looks for and passes over the others. To
say what an object holds for any reader it is read here without such knowledge: the names of all its
members in their order, each as often as it occurs, and with each the octets of its value, which
must be well formed.

An object that is written member by member has just these members, if no name needs escaping and
every value ends where it should. Strings without escapes do, and so do decimals.
-/

namespace PaymentRelay.Json

/-- The members of an object and the octets of their values, at most `fuel` of them, its opening
brace read. -/
def fieldsFrom (first : Bool) (bs : Bytes) :
    (fuel : Nat) → Except Fault (List (String × Bytes) × Bytes)
  | 0 => .error .malformed
  | fuel + 1 =>
    match nextName first bs with
    | .error fault => .error fault
    | .ok (none, rest) => .ok ([], rest)
    | .ok (some name, rest) => do
      let ((), value) ← token 0x3A rest
      let ((), after) ← skipValue value
      let (more, rest) ← fieldsFrom false after fuel
      return ((name, value.take (value.length - after.length)) :: more, rest)

/-- The members of an object, whatever their names are, with the octets of their values. -/
def fields : Reader (List (String × Bytes)) := fun bs ↦
  match skipSpace bs with
  | 0x7B :: rest => fieldsFrom true rest (rest.length + 1)
  | bs => .error (misfit bs)

/-! ## Values -/

/-- A value without brackets is skipped in one step, and the next finds that it is over. -/
theorem skipValue_scalar {c : UInt8} {bs rest : Bytes} (solid : isSpace c = false)
    (bracket : c ≠ 0x5B ∧ c ≠ 0x7B) (skipped : skipScalar c bs = .ok rest) :
    skipValue (c :: bs) = .ok ((), rest) := by
  have front : skipSpace (c :: bs) = c :: bs := List.dropWhile_cons_of_neg (by simp [solid])
  have value (fuel : Nat) : skipFrom .before [] (c :: bs) (fuel + 1)
      = skipFrom .behind [] rest fuel := by
    have step : skipStep .before [] (c :: bs) = .ok (.inr (.behind, [], rest)) := by
      rw [skipStep, if_neg (by simp), front]
      dsimp only
      rw [skipAt, if_neg bracket.1, if_neg bracket.2, skipped]
      rfl
    rw [skipFrom, step]
  have done (fuel : Nat) : skipFrom .behind [] rest (fuel + 1) = .ok rest := by
    rw [skipFrom, skipStep, if_pos ⟨rfl, rfl⟩]
  rw [skipValue, value, done]
  rfl

theorem isValue_quoted {text : String} (plain : IsPlain text) : IsValue (quoted text) := by
  intro b rest _
  have skipped : skipScalar 0x22 (utf8 text ++ 0x22 :: (b :: rest)) = .ok (b :: rest) := by
    have read := stringFrom_append false [] (b :: rest) plain
    simp [skipScalar, skipString, read, Except.map]
  have front : quoted text ++ b :: rest = 0x22 :: (utf8 text ++ 0x22 :: (b :: rest)) := by
    simp [quoted]
  rw [front]
  exact skipValue_scalar (by decide) (by decide) skipped

theorem isValue_render (d : Decimal) : IsValue d.render := by
  intro b rest after
  obtain ⟨c, cs, same, starts⟩ := exists_render_append d (b :: rest)
  have number := read_render d rest after
  rw [same] at number ⊢
  have solid : (c ≠ 0x5B ∧ c ≠ 0x7B) ∧ c ≠ 0x6E ∧ c ≠ 0x74 ∧ c ≠ 0x66 ∧ c ≠ 0x22 := by
    refine ⟨⟨?_, ?_⟩, ?_, ?_, ?_, ?_⟩
    all_goals
      rintro rfl
      cases starts
  obtain ⟨bracket, null, true_, false_, quote⟩ := solid
  refine skipValue_scalar (Number.not_isSpace_of_starts starts) bracket ?_
  rw [skipScalar, if_neg null, if_neg true_, if_neg false_, if_neg quote, if_pos starts, number]

/-! ## Objects -/

theorem fieldsFrom_closing {members : List (String × Bytes)}
    (plain : ∀ m ∈ members, IsPlain m.1 ∧ IsValue m.2) (first : Bool) (rest : Bytes) {fuel : Nat}
    (enough : members.length < fuel) :
    fieldsFrom first (closing first members ++ rest) fuel = .ok (members, rest) := by
  induction members generalizing first fuel with
  | nil =>
    obtain ⟨fuel, rfl⟩ := Nat.exists_eq_succ_of_ne_zero (Nat.ne_zero_of_lt enough)
    rfl
  | cons m members ih =>
    obtain ⟨name, value⟩ := m
    obtain ⟨fuel, rfl⟩ := Nat.exists_eq_succ_of_ne_zero (Nat.ne_zero_of_lt enough)
    obtain ⟨named, valued⟩ := plain (name, value) List.mem_cons_self
    have later := ih (fun m there ↦ plain m (List.mem_cons_of_mem _ there)) false
      (Nat.lt_of_succ_lt_succ enough)
    obtain ⟨b, bs, same, after⟩ := exists_closing_append members rest
    rw [same] at later
    have colon : token 0x3A (0x3A :: (value ++ b :: bs)) = .ok ((), value ++ b :: bs) := rfl
    have cut : (value ++ b :: bs).take ((value ++ b :: bs).length - (b :: bs).length) = value := by
      rw [List.length_append, Nat.add_sub_cancel, List.take_left]
    rw [closing_cons_append, same, fieldsFrom, nextName_written named]
    dsimp only
    rw [colon]
    simp only [bind, Except.bind, valued b bs after, later, cut, pure, Except.pure]

/-- **An object has the members that it is written with**, and no others. -/
theorem fields_object {members : List (String × Bytes)}
    (plain : ∀ m ∈ members, IsPlain m.1 ∧ IsValue m.2) (rest : Bytes) :
    fields (object members ++ rest) = .ok (members, rest) := by
  have long := length_le_closing true members
  have opened : skipSpace (object members ++ rest) = 0x7B :: (closing true members ++ rest) := rfl
  rw [fields, opened]
  exact fieldsFrom_closing plain true rest (by rw [List.length_append]; omega)

end PaymentRelay.Json
