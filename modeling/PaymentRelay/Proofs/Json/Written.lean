import PaymentRelay.Json.Record
import PaymentRelay.Proofs.Bytes.Utf8
import PaymentRelay.Proofs.Decimal.Written

/-!
# Reading back objects

The objects that this program writes have no blanks, plain names, and numbers, texts or objects as
values. A number ends where its digits do: in an object a comma or a closing brace comes after it,
and neither belongs to a number. So each value is read up to its end and not beyond, and a reader
finds the values of the names that it knows and passes over the others.
-/

namespace PaymentRelay.Json

/-- What comes after a value in an object. -/
def Follows (b : UInt8) : Prop := b = 0x2C ∨ b = 0x7D

variable {b : UInt8}

/-! ## Numbers -/

namespace Number

variable {ds whole fraction : Bytes}

theorem digits_append (rest : Bytes) (some_ : ds ≠ []) (plain : ∀ c ∈ ds, Octet.isDigit c = true)
    (ends : Octet.isDigit b = false) : digits (ds ++ b :: rest) = .ok (ds, b :: rest) := by
  obtain ⟨c, cs, rfl⟩ := List.exists_cons_of_ne_nil some_
  have taken : ((c :: cs) ++ b :: rest).takeWhile Octet.isDigit = c :: cs := by
    rw [List.takeWhile_append_of_pos plain, List.takeWhile_cons_of_neg (by simp [ends]),
      List.append_nil]
  have dropped : ((c :: cs) ++ b :: rest).dropWhile Octet.isDigit = b :: rest := by
    rw [List.dropWhile_append_of_pos plain, List.dropWhile_cons_of_neg (by simp [ends])]
  rw [List.cons_append] at taken dropped ⊢
  rw [digits, if_pos (plain c List.mem_cons_self), taken, dropped]

theorem whole?_append (rest : Bytes) (some_ : whole ≠ [])
    (plain : ∀ c ∈ whole, Octet.isDigit c = true)
    (zero : whole.head? = some 0x30 → whole.length = 1) (ends : Octet.isDigit b = false) :
    whole? (whole ++ b :: rest) = .ok (whole, b :: rest) := by
  have alone : ¬ (whole.head? = some 0x30 ∧ whole.length > 1) := by
    rintro ⟨first, long⟩
    exact Nat.ne_of_gt long (zero first)
  rw [whole?, digits_append rest some_ plain ends]
  exact if_neg alone

/-- The point and the digits after it, if there are any. -/
def tail (fraction : Bytes) : Bytes := if fraction = [] then [] else 0x2E :: fraction

theorem exists_tail_append (fraction rest : Bytes) (after : Follows b) :
    ∃ c cs, tail fraction ++ b :: rest = c :: cs ∧ Octet.isDigit c = false := by
  rw [tail]
  split
  · refine ⟨b, rest, rfl, ?_⟩
    rcases after with rfl | rfl <;> decide
  · exact ⟨0x2E, fraction ++ b :: rest, rfl, by decide⟩

theorem fraction?_append (rest : Bytes) (plain : ∀ c ∈ fraction, Octet.isDigit c = true)
    (after : Follows b) : fraction? (tail fraction ++ b :: rest) = .ok (fraction, b :: rest) := by
  have ends : Octet.isDigit b = false := by rcases after with rfl | rfl <;> decide
  rw [tail]
  split
  · next none_ =>
    rw [none_]
    rcases after with rfl | rfl <;> rfl
  · next some_ => exact digits_append rest some_ plain ends

theorem exponent?_of_follows (rest : Bytes) (after : Follows b) :
    exponent? (b :: rest) = .ok (none, b :: rest) := by
  rcases after with rfl | rfl <;> rfl

/-- **A number is read** up to its end. -/
theorem read_written (negative : Bool) (fraction rest : Bytes) (some_ : whole ≠ [])
    (inWhole : ∀ c ∈ whole, Octet.isDigit c = true)
    (zero : whole.head? = some 0x30 → whole.length = 1)
    (inFraction : ∀ c ∈ fraction, Octet.isDigit c = true) (after : Follows b) :
    read ((if negative then [0x2D] else []) ++ (whole ++ (tail fraction ++ b :: rest)))
      = .ok (⟨negative, whole, fraction, none⟩, b :: rest) := by
  obtain ⟨c, cs, same, ends⟩ := exists_tail_append fraction rest after
  have front := whole?_append cs some_ inWhole zero ends
  have back := fraction?_append rest inFraction after
  have noExponent := exponent?_of_follows rest after
  rw [same] at back ⊢
  rcases negative
  · obtain ⟨w, ws, rfl⟩ := List.exists_cons_of_ne_nil some_
    have unsigned : w ≠ 0x2D := by
      rintro rfl
      cases inWhole 0x2D List.mem_cons_self
    rw [List.cons_append] at front
    simp [read, unsigned, front, back, noExponent, bind, Except.bind]
  · simp [read, front, back, noExponent, bind, Except.bind]

theorem not_isSpace_of_starts {c : UInt8} (h : starts c = true) : isSpace c = false := by
  by_contra space
  simp only [isSpace, Bool.not_eq_false, Bool.or_eq_true, beq_iff_eq] at space
  rcases space with ((rfl | rfl) | rfl) | rfl <;> cases h

theorem skipSpace_of_starts {c : UInt8} (cs : Bytes) (h : starts c = true) :
    skipSpace (c :: cs) = c :: cs :=
  List.dropWhile_cons_of_neg (by simp [not_isSpace_of_starts h])

theorem starts_of_isDigit {c : UInt8} (h : Octet.isDigit c = true) : starts c = true := by
  rw [starts, h, Bool.or_true]

end Number

/-- **A count is read back.** -/
theorem count_written {n : Nat} (small : n < Numeral.limit64) (rest : Bytes) (after : Follows b) :
    count (Numeral.ofNat n ++ b :: rest) = .ok (n, b :: rest) := by
  have zero : (Numeral.ofNat n).head? = some 0x30 → (Numeral.ofNat n).length = 1 := by
    intro first
    by_cases none_ : n = 0
    · rw [none_]
      decide
    · exact absurd first (Numeral.head?_ofNat none_)
  have number : Number.read (Numeral.ofNat n ++ b :: rest)
      = .ok (⟨false, Numeral.ofNat n, [], none⟩, b :: rest) :=
    Number.read_written false [] rest (Numeral.ofNat_ne_nil n)
      (fun c ↦ Numeral.isDigit_of_mem_ofNat) zero (by simp) after
  obtain ⟨c, cs, same⟩ := List.exists_cons_of_ne_nil (Numeral.ofNat_ne_nil n)
  have starts : Number.starts c = true :=
    Number.starts_of_isDigit (Numeral.isDigit_of_mem_ofNat (same ▸ List.mem_cons_self))
  have told : Number.toCount ⟨false, Numeral.ofNat n, [], none⟩ = .ok n := by
    rw [Number.toCount, if_pos ⟨rfl, rfl, rfl⟩, Numeral.read?_ofNat small]
  have front : Numeral.ofNat n ++ b :: rest = c :: (cs ++ b :: rest) := by
    rw [same]
    rfl
  rw [front] at number ⊢
  rw [count, Number.skipSpace_of_starts _ starts]
  dsimp only
  rw [if_pos starts, number]
  simp only [bind, Except.bind, told]

theorem text_written (d : Decimal) :
    Number.text ⟨d.negative, d.whole, d.fraction, none⟩ = d.render ∧
      Number.tail d.fraction = d.tail := by
  have none_iff : d.fraction = [] ↔ d.scale = 0 := by
    rw [← List.length_eq_zero_iff, d.length_fraction]
  have tail : Number.tail d.fraction = d.tail := by
    rw [Number.tail, Decimal.tail]
    exact if_congr none_iff rfl rfl
  refine ⟨?_, tail⟩
  rw [Number.text, Decimal.render_eq, ← tail, Decimal.sign, Number.tail]
  simp

theorem exists_render_append (d : Decimal) (rest : Bytes) :
    ∃ c cs, d.render ++ rest = c :: cs ∧ Number.starts c = true := by
  rw [Decimal.render_eq, Decimal.sign]
  rcases d.negative
  · obtain ⟨w, ws, whole⟩ := List.exists_cons_of_ne_nil d.whole_ne_nil
    refine ⟨w, _, by rw [whole]; rfl, Number.starts_of_isDigit ?_⟩
    exact Decimal.isDigit_of_mem_whole (d := d) (whole ▸ List.mem_cons_self)
  · exact ⟨0x2D, _, rfl, by decide⟩

theorem read_render (d : Decimal) (rest : Bytes) (after : Follows b) :
    Number.read (d.render ++ b :: rest)
      = .ok (⟨d.negative, d.whole, d.fraction, none⟩, b :: rest) := by
  have cut : d.render ++ b :: rest = (if d.negative then [0x2D] else []) ++
      (d.whole ++ (Number.tail d.fraction ++ b :: rest)) := by
    rw [Decimal.render_eq, (text_written d).2, List.append_assoc, List.append_assoc]
    rfl
  rw [cut]
  exact Number.read_written d.negative d.fraction rest d.whole_ne_nil
    (fun c ↦ Decimal.isDigit_of_mem_whole) d.length_whole_of_zero
    (fun c ↦ Decimal.isDigit_of_mem_fraction) after

/-- **An amount is read back**, a zero without its minus sign. -/
theorem decimal_written (d : Decimal) (rest : Bytes) (after : Follows b) :
    decimal (d.render ++ b :: rest) = .ok (d.unsignedZero, b :: rest) := by
  have text := (text_written d).1
  have number := read_render d rest after
  obtain ⟨c, cs, same, starts⟩ := exists_render_append d (b :: rest)
  rw [same] at number ⊢
  rw [decimal, Number.skipSpace_of_starts _ starts]
  dsimp only
  rw [if_pos starts, number]
  simp only [bind, Except.bind, text, spelled, Decimal.read?_render]

/-! ## Names -/

/-- Nothing in a name must be escaped. -/
def IsPlain (name : String) : Prop := ∀ c ∈ utf8 name, c ≠ 0x22 ∧ c ≠ 0x5C ∧ ¬ c < 0x20

instance : DecidablePred IsPlain := fun name ↦ List.decidableBAll _ (utf8 name)

def quoted (name : String) : Bytes := 0x22 :: (utf8 name ++ [0x22])

theorem stringFrom_append (strict : Bool) (done rest : Bytes) {cs : Bytes}
    (plain : ∀ c ∈ cs, c ≠ 0x22 ∧ c ≠ 0x5C ∧ ¬ c < 0x20) :
    stringFrom strict done (cs ++ 0x22 :: rest) = .ok (done.reverse ++ cs, rest) := by
  induction cs generalizing done with
  | nil =>
    rw [List.nil_append, stringFrom, if_pos rfl, List.append_nil]
  | cons c cs ih =>
    obtain ⟨noQuote, noEscape, noControl⟩ := plain c List.mem_cons_self
    rw [List.cons_append, stringFrom, if_neg noQuote, if_neg noEscape, if_neg noControl,
      ih _ fun c there ↦ plain c (List.mem_cons_of_mem _ there)]
    simp

theorem string_written {name : String} (plain : IsPlain name) (rest : Bytes) :
    string (utf8 name ++ 0x22 :: rest) = .ok (name, rest) := by
  rw [string, stringFrom_append true [] rest plain]
  simp [bind, Except.bind]

/-- **A text is read back**, if none of it is escaped. -/
theorem text_quoted {name : String} (plain : IsPlain name) (rest : Bytes) :
    text (quoted name ++ rest) = .ok (name, rest) := by
  have quote : skipSpace (0x22 :: (utf8 name ++ 0x22 :: rest))
      = 0x22 :: (utf8 name ++ 0x22 :: rest) := rfl
  have front : quoted name ++ rest = 0x22 :: (utf8 name ++ 0x22 :: rest) := by simp [quoted]
  rw [front, text, quote]
  exact string_written plain rest

/-- The comma before a member, unless it is the first. -/
def separator (first : Bool) : Bytes := if first then [] else [0x2C]

theorem nextName_written {name : String} (plain : IsPlain name) (first : Bool) (rest : Bytes) :
    nextName first (separator first ++ (quoted name ++ rest)) = .ok (some name, rest) := by
  have front : quoted name ++ rest = 0x22 :: (utf8 name ++ 0x22 :: rest) := by simp [quoted]
  have opened : token 0x22 (0x22 :: (utf8 name ++ 0x22 :: rest))
      = .ok ((), utf8 name ++ 0x22 :: rest) := rfl
  have named := string_written plain rest
  rw [front]
  rcases first
  · have comma : skipSpace (0x2C :: 0x22 :: (utf8 name ++ 0x22 :: rest))
        = 0x2C :: 0x22 :: (utf8 name ++ 0x22 :: rest) := rfl
    simp [nextName, separator, comma, opened, named, bind, Except.bind, pure, Except.pure]
  · have quote : skipSpace (0x22 :: (utf8 name ++ 0x22 :: rest))
        = 0x22 :: (utf8 name ++ 0x22 :: rest) := rfl
    simp [nextName, separator, quote, opened, named, bind, Except.bind, pure, Except.pure]

/-! ## Members -/

section Members

variable {σ α : Type} {members : List (Member σ)} {gathered gathered' : σ} {m : Member σ}
  {name : String}

/-- **A member is read** up to the end of its value. -/
theorem objectFrom_member (first : Bool) {value rest : Bytes} (fuel : Nat) (plain : IsPlain name)
    (known : members.find? (·.name = name) = some m) (fresh : m.found gathered = false)
    (reads : m.read gathered (value ++ rest) = .ok (gathered', rest)) :
    objectFrom members gathered first
        (separator first ++ (quoted name ++ (0x3A :: (value ++ rest)))) (fuel + 1)
      = objectFrom members gathered' false rest fuel := by
  have colon : token 0x3A (0x3A :: (value ++ rest)) = .ok ((), value ++ rest) := rfl
  have member : memberValue members gathered name (0x3A :: (value ++ rest))
      = .ok (gathered', rest) := by
    simp [memberValue, known, fresh, colon, reads, bind, Except.bind]
  rw [objectFrom, nextName_written plain]
  dsimp only
  rw [member]

/-- A member that nobody asked for is passed over. -/
theorem objectFrom_other (first : Bool) {value rest rest' : Bytes} (fuel : Nat)
    (plain : IsPlain name) (unknown : members.find? (·.name = name) = none)
    (skips : skipValue (value ++ rest) = .ok ((), rest')) :
    objectFrom members gathered first
        (separator first ++ (quoted name ++ (0x3A :: (value ++ rest)))) (fuel + 1)
      = objectFrom members gathered false rest' fuel := by
  have colon : token 0x3A (0x3A :: (value ++ rest)) = .ok ((), value ++ rest) := rfl
  have member : memberValue members gathered name (0x3A :: (value ++ rest))
      = .ok (gathered, rest') := by
    simp [memberValue, unknown, colon, skips, bind, Except.bind, pure, Except.pure]
  rw [objectFrom, nextName_written plain]
  dsimp only
  rw [member]

end Members

/-! ## Objects -/

/-- A value that is read up to its end, in an object. -/
def IsValue (value : Bytes) : Prop :=
  ∀ b rest, Follows b → skipValue (value ++ b :: rest) = .ok ((), b :: rest)

/-- The members of an object and its closing brace. -/
def closing (first : Bool) : List (String × Bytes) → Bytes
  | [] => [0x7D]
  | (name, value) :: members =>
    separator first ++ (quoted name ++ (0x3A :: (value ++ closing false members)))

/-- An object, written member by member. -/
def object (members : List (String × Bytes)) : Bytes := 0x7B :: closing true members

theorem closing_cons_append (first : Bool) (name : String) (value : Bytes)
    (members : List (String × Bytes)) (rest : Bytes) :
    closing first ((name, value) :: members) ++ rest
      = separator first ++
          (quoted name ++ (0x3A :: (value ++ (closing false members ++ rest)))) := by
  simp only [closing, List.append_assoc, List.cons_append]

theorem exists_closing_append (members : List (String × Bytes)) (rest : Bytes) :
    ∃ b bs, closing false members ++ rest = b :: bs ∧ Follows b := by
  rcases members with _ | ⟨⟨name, value⟩, members⟩
  · exact ⟨0x7D, rest, rfl, .inr rfl⟩
  · exact ⟨0x2C, _, rfl, .inl rfl⟩

theorem length_le_closing (first : Bool) (members : List (String × Bytes)) :
    members.length < (closing first members).length := by
  induction members generalizing first with
  | nil => exact Nat.zero_lt_one
  | cons m members ih =>
    have later := ih false
    simp only [closing, quoted, List.length_append, List.length_cons]
    omega

section Gathering

variable {σ α : Type} {members : List (Member σ)}

/-- What a reader makes of an object's members, one after the other: those that it looks for it
reads, each for the first time, and the others it passes over. -/
inductive Gathers (members : List (Member σ)) : σ → List (String × Bytes) → σ → Prop where
  | done (g : σ) : Gathers members g [] g
  | read {g g₁ g₂ : σ} {m : Member σ} {name : String} {value : Bytes}
      {more : List (String × Bytes)} (plain : IsPlain name)
      (known : members.find? (·.name = name) = some m) (fresh : m.found g = false)
      (reads : ∀ b rest, Follows b → m.read g (value ++ b :: rest) = .ok (g₁, b :: rest))
      (onward : Gathers members g₁ more g₂) : Gathers members g ((name, value) :: more) g₂
  | pass {g g' : σ} {name : String} {value : Bytes} {more : List (String × Bytes)}
      (plain : IsPlain name) (unknown : members.find? (·.name = name) = none)
      (valued : IsValue value) (onward : Gathers members g more g') :
      Gathers members g ((name, value) :: more) g'

/-- The members that are written are read one after the other, up to the closing brace. -/
theorem objectFrom_closing {g g' : σ} {written : List (String × Bytes)}
    (gathers : Gathers members g written g') (first : Bool) (rest : Bytes) {fuel : Nat}
    (enough : written.length < fuel) :
    objectFrom members g first (closing first written ++ rest) fuel = .ok (g', rest) := by
  -- one step for each member, and one for the closing brace
  obtain ⟨fuel, rfl⟩ := Nat.exists_eq_succ_of_ne_zero (Nat.ne_zero_of_lt enough)
  induction gathers generalizing first fuel with
  | done g => rfl
  | @read g g₁ g₂ m name value more plain known fresh reads onward ih =>
    obtain ⟨fuel, rfl⟩ := Nat.exists_eq_succ_of_ne_zero
      (Nat.ne_zero_of_lt (Nat.lt_of_succ_lt_succ enough))
    have later := ih false fuel (Nat.lt_of_succ_lt_succ enough)
    obtain ⟨b, bs, same, after⟩ := exists_closing_append more rest
    rw [closing_cons_append, same, objectFrom_member first _ plain known fresh (reads b bs after),
      ← same]
    exact later
  | @pass g g' name value more plain unknown valued onward ih =>
    obtain ⟨fuel, rfl⟩ := Nat.exists_eq_succ_of_ne_zero
      (Nat.ne_zero_of_lt (Nat.lt_of_succ_lt_succ enough))
    have later := ih false fuel (Nat.lt_of_succ_lt_succ enough)
    obtain ⟨b, bs, same, after⟩ := exists_closing_append more rest
    rw [closing_cons_append, same, objectFrom_other first _ plain unknown (valued b bs after),
      ← same]
    exact later

/-- **A record is read back** from an object that has its members. -/
theorem record_object {start g : σ} {written : List (String × Bytes)}
    (gathers : Gathers members start written g) (finish : σ → Except Fault α) (rest : Bytes) :
    record members start finish (object written ++ rest)
      = (finish g).map fun value ↦ (value, rest) := by
  have long := length_le_closing true written
  have enough : written.length < (closing true written ++ rest).length + 1 := by
    rw [List.length_append]
    omega
  have opened : skipSpace (object written ++ rest) = 0x7B :: (closing true written ++ rest) := rfl
  simp only [record, opened, objectFrom_closing gathers true rest enough, bind, Except.bind]
  rcases finish g <;> rfl

end Gathering

def pair (name₁ : String) (value₁ : Bytes) (name₂ : String) (value₂ : Bytes) : Bytes :=
  0x7B :: (quoted name₁ ++ (0x3A :: (value₁ ++ (0x2C :: (quoted name₂ ++
    (0x3A :: (value₂ ++ [0x7D])))))))

/-- **A record of two members is read back** from an object that holds them in their order. -/
theorem record_pair {σ α : Type} {m₁ m₂ : Member σ} {start : σ} {value₁ value₂ : Bytes}
    (g₁ g₂ : σ) (finish : σ → Except Fault α) (plain₁ : IsPlain m₁.name) (plain₂ : IsPlain m₂.name)
    (apart : m₁.name ≠ m₂.name) (fresh₁ : m₁.found start = false) (fresh₂ : m₂.found g₁ = false)
    (reads₁ : ∀ b rest, Follows b → m₁.read start (value₁ ++ b :: rest) = .ok (g₁, b :: rest))
    (reads₂ : ∀ b rest, Follows b → m₂.read g₁ (value₂ ++ b :: rest) = .ok (g₂, b :: rest))
    (rest : Bytes) :
    record [m₁, m₂] start finish (pair m₁.name value₁ m₂.name value₂ ++ rest)
      = (finish g₂).map fun value ↦ (value, rest) := by
  have cut : pair m₁.name value₁ m₂.name value₂
      = object [(m₁.name, value₁), (m₂.name, value₂)] := by
    simp [pair, object, closing, separator]
  have known₁ : [m₁, m₂].find? (·.name = m₁.name) = some m₁ := by simp
  have known₂ : [m₁, m₂].find? (·.name = m₂.name) = some m₂ := by simp [apart]
  rw [cut]
  refine record_object (.read plain₁ known₁ fresh₁ reads₁ ?_) finish rest
  exact .read plain₂ known₂ fresh₂ reads₂ (.done g₂)

end PaymentRelay.Json
