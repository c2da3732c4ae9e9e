import PaymentRelay.Proofs.Bytes.Utf8
import PaymentRelay.Proofs.Http.Numerals
import PaymentRelay.Proofs.Time.Calendar
import PaymentRelay.Time.Rfc3339

/-!
# Reading back timestamps

What is read is an instant that exists: it lies within its second, or within the leap second after
it, which only the last second of a minute has. What is written of such an instant in milliseconds
is read back as the same instant in whole milliseconds, if its year has four digits. Any other year
is written with a sign in front, and at that sign the reader stops.
-/

namespace PaymentRelay

/-- The instant exists: a leap second comes only after the last second of a minute. -/
def Instant.Valid (t : Instant) : Prop :=
  t.nanos < nanosPerSecond ∨ (t.nanos < 2 * nanosPerSecond ∧ t.seconds % 60 = 59)

instance : DecidablePred Instant.Valid := fun _ ↦ inferInstanceAs (Decidable (_ ∨ _))

/-- The year in which an instant falls. -/
def Instant.year (t : Instant) : Int := (Civil.ofDays (t.seconds / Rfc3339.daySeconds)).year

/-- The year in which an instant falls can be written with four digits. -/
def Instant.HasPlainYear (t : Instant) : Prop := 0 ≤ t.year ∧ t.year ≤ 9999

instance : DecidablePred Instant.HasPlainYear := fun _ ↦ inferInstanceAs (Decidable (_ ∧ _))

/-- The instant without what it has beyond whole milliseconds. -/
def Instant.wholeMillis (t : Instant) : Instant := ⟨t.seconds, t.nanos / 1000000 * 1000000⟩

@[simp] theorem Instant.toMillis_wholeMillis (t : Instant) :
    t.wholeMillis.toMillis = t.toMillis := by
  simp [wholeMillis, toMillis]

theorem Instant.valid_before {t : Instant} (valid : t.Valid) (seconds : Nat) :
    (t.before seconds).Valid := by
  rw [before]
  split
  · next leap =>
    simp only [Bool.and_eq_true, decide_eq_true_eq] at leap
    left
    dsimp only
    rcases valid with usual | ⟨below, -⟩ <;> omega
  · next stays =>
    rcases valid with usual | ⟨below, last⟩
    · exact Or.inl usual
    · have none_ : t.nanos < nanosPerSecond ∨ seconds = 0 := by
        simp only [Bool.and_eq_true, decide_eq_true_eq] at stays
        omega
      rcases none_ with usual | rfl
      · exact Or.inl usual
      · exact Or.inr ⟨below, by simpa using last⟩

namespace Rfc3339

/-! ## Numbers of a fixed width -/

variable {width n : Nat}

theorem length_padded (pos : 0 < width) (small : n < 10 ^ width) :
    (padded width n).length = width := by
  have short := (Numeral.length_ofNat_le_iff pos).mpr small
  simp only [padded, List.length_append, List.length_replicate]
  omega

theorem isDigit_of_mem_padded {b : UInt8} (h : b ∈ padded width n) : Octet.isDigit b = true := by
  rcases List.mem_append.mp h with h | h
  · rw [List.eq_of_mem_replicate h]
    decide
  · exact Numeral.isDigit_of_mem_ofNat h

theorem read?_padded {limit : Nat} (small : n < limit) :
    Numeral.read? limit (padded width n) = some n := by
  have numeral : Numeral.IsNumeral (padded width n) n := Numeral.isNumeral_iff.mpr ⟨_, rfl⟩
  exact (Numeral.read?_eq_some_iff (Nat.zero_lt_of_lt small)).mpr ⟨numeral, small⟩

/-- **A number of a fixed width is read back.** -/
theorem digits_padded (rest : Bytes) (pos : 0 < width) (small : n < 10 ^ width) :
    digits width (padded width n ++ rest) = .ok (n, rest) := by
  have length := length_padded pos small
  have found : Numeral.read? (pow10 width) (padded width n) = some n := read?_padded small
  rw [digits, List.take_left' length, List.drop_left' length, found, if_neg (by omega)]

/-! ## The parts of a timestamp -/

theorem oneOf_cons {allowed : Bytes} {b : UInt8} (bs : Bytes) (h : allowed.contains b = true) :
    oneOf allowed (b :: bs) = .ok ((), bs) := by
  rw [oneOf, if_pos h]

theorem date_written {d : Civil.Date} {year : Nat} (rest : Bytes) (valid : d.valid = true)
    (same : d.year = year) (small : year < 10000) :
    date (padded 4 year ++ 0x2D :: (padded 2 d.month ++ 0x2D :: (padded 2 d.day ++ rest)))
      = .ok (d, rest) := by
  have exists_ := valid
  simp only [Civil.Date.valid, Bool.and_eq_true, decide_eq_true_eq] at exists_
  have month : d.month < 10 ^ 2 := by omega
  have day : d.day < 10 ^ 2 := by
    have := Civil.monthLength_le d.year d.month
    omega
  have whole : (⟨year, d.month, d.day⟩ : Civil.Date) = d := by rw [← same]
  simp only [date, digits_padded _ (Nat.succ_pos 3) small, digits_padded _ (Nat.succ_pos 1) month,
    digits_padded _ (Nat.succ_pos 1) day,
    oneOf_cons _ (rfl : [(0x2D : UInt8)].contains 0x2D = true), bind, Except.bind, whole, valid,
    if_true]

theorem clock_written {hour minute second : Nat} (rest : Bytes) (hours : hour < 100)
    (minutes : minute < 100) (seconds : second < 100) :
    clock (padded 2 hour ++ 0x3A :: (padded 2 minute ++ 0x3A :: (padded 2 second ++ rest)))
      = .ok ((hour, minute, second), rest) := by
  simp only [clock, digits_padded _ (Nat.succ_pos 1) hours,
    digits_padded _ (Nat.succ_pos 1) minutes, digits_padded _ (Nat.succ_pos 1) seconds,
    oneOf_cons _ (rfl : [(0x3A : UInt8)].contains 0x3A = true), bind, Except.bind, pure,
    Except.pure]

theorem fraction_written {millis : Nat} (rest : Bytes) (small : millis < 1000) :
    fraction (0x2E :: (padded 3 millis ++ 0x5A :: rest)) =
      .ok (millis * 1000000, 0x5A :: rest) := by
  have length : (padded 3 millis).length = 3 := length_padded (Nat.succ_pos 2) small
  have stop : Octet.isDigit 0x5A = false := rfl
  have taken : (padded 3 millis ++ 0x5A :: rest).takeWhile Octet.isDigit = padded 3 millis := by
    rw [List.takeWhile_append_of_pos fun b ↦ isDigit_of_mem_padded]
    simp [stop]
  have left : (padded 3 millis ++ 0x5A :: rest).dropWhile Octet.isDigit = 0x5A :: rest := by
    rw [List.dropWhile_append_of_pos fun b ↦ isDigit_of_mem_padded]
    simp [stop]
  have kept : (padded 3 millis).take 9 = padded 3 millis := List.take_of_length_le (by omega)
  have found : Numeral.read? (pow10 9) (padded 3 millis) = some millis :=
    read?_padded (Nat.lt_trans small (by decide))
  simp only [fraction, taken, left, kept, found, length]
  rfl

/-! ## Whole timestamps -/

theorem exists_second (t : Instant) : ∃ second : Nat, (t.seconds % daySeconds).toNat = second ∧
    second < 86400 ∧ t.seconds / daySeconds * daySeconds + second = t.seconds ∧
    (second : Int) % 60 = t.seconds % 60 := by
  simp only [daySeconds]
  exact ⟨_, rfl, by omega, by omega, by omega⟩

/-- An instant is some milliseconds after its second, or after the leap second behind that. -/
theorem exists_millis {t : Instant} (valid : t.Valid) : ∃ leap millis : Nat,
    (if t.nanos ≥ Instant.nanosPerSecond then 1 else 0) = leap ∧
      t.nanos % Instant.nanosPerSecond / 1000000 = millis ∧ millis < 1000 ∧
      (leap = 0 ∨ leap = 1 ∧ t.seconds % 60 = 59) ∧
      t.wholeMillis = ⟨t.seconds, millis * 1000000 + leap * Instant.nanosPerSecond⟩ := by
  have unit : Instant.nanosPerSecond = 1000000000 := rfl
  rcases Nat.lt_or_ge t.nanos Instant.nanosPerSecond with usual | leap
  · refine ⟨0, t.nanos / 1000000, if_neg (Nat.not_le_of_lt usual), ?_, by omega, Or.inl rfl, ?_⟩
    · rw [Nat.mod_eq_of_lt usual]
    · rw [Instant.wholeMillis, Nat.zero_mul, Nat.add_zero]
  · obtain ⟨below, last⟩ := valid.resolve_left (Nat.not_lt_of_le leap)
    have ended : t.nanos % Instant.nanosPerSecond = t.nanos - 1000000000 := by
      rw [Nat.mod_eq_sub_mod leap, Nat.mod_eq_of_lt (by omega), unit]
    refine ⟨1, (t.nanos - 1000000000) / 1000000, if_pos leap, by rw [ended], by omega,
      Or.inr ⟨rfl, last⟩, ?_⟩
    rw [Instant.wholeMillis, Instant.mk.injEq]
    omega

theorem instantOf_reading {d : Civil.Date} {second leap nanos : Nat} (small : leap ≤ 1)
    (last : leap = 1 → second % 60 = 59) :
    instantOf d (second / 3600) (second / 60 % 60) (second % 60 + leap) nanos 0
      = ⟨d.toDays * daySeconds + second, nanos + leap * Instant.nanosPerSecond⟩ := by
  rcases Nat.le_one_iff_eq_zero_or_eq_one.mp small with rfl | rfl
  · have read : second % 60 + 0 ≠ 60 := by omega
    simp only [instantOf, if_neg read, Instant.mk.injEq]
    omega
  · have read : second % 60 + 1 = 60 := by omega
    simp only [instantOf, if_pos read, Instant.mk.injEq]
    omega

theorem bind_eq_ok {α β : Type} {x : Except Fault α} {f : α → Except Fault β} {b : β} :
    x.bind f = .ok b ↔ ∃ a, x = .ok a ∧ f a = .ok b := by
  cases x <;> simp [Except.bind]

theorem ite_throw_eq_ok {α : Type} {c : Prop} [Decidable c] {fault : Fault}
    {f : PUnit → Except Fault α} {x : Except Fault α} {b : α} :
    (if c then (throw fault : Except Fault PUnit).bind f else x) = .ok b ↔ ¬ c ∧ x = .ok b := by
  by_cases h : c
  · simp [h, throw, throwThe, MonadExceptOf.throw, Except.bind]
  · simp [h]

/-- **What a timestamp is**: a date, one of three separators, a clock reading, perhaps a fraction,
and an offset, with nothing behind them; and the instant that these say. -/
theorem read_eq_ok_iff {bs : Bytes} {t : Instant} : read bs = .ok t ↔
    ∃ d hour minute second nanos ahead bs₁ bs₂ bs₃ bs₄, 19 ≤ bs.length ∧ date bs = .ok (d, bs₁) ∧
      oneOf [0x54, 0x74, 0x20] bs₁ = .ok ((), bs₂) ∧
      clock bs₂ = .ok ((hour, minute, second), bs₃) ∧ fraction bs₃ = .ok (nanos, bs₄) ∧
      (hour < 24 ∧ minute < 60 ∧ second ≤ 60) ∧ offset bs₄ = .ok (ahead, []) ∧
      ahead.natAbs < daySeconds ∧ t = instantOf d hour minute second nanos ahead := by
  simp only [read, bind, bind_eq_ok, ite_throw_eq_ok]
  constructor
  · rintro ⟨long, ⟨d, bs₁⟩, date_, ⟨_, bs₂⟩, separator, ⟨⟨hour, minute, second⟩, bs₃⟩, clock_,
      ⟨nanos, bs₄⟩, fraction_, ranges, ⟨ahead, bs₅⟩, offset_, ended, inDay, same⟩
    have none_ : bs₅ = [] := by simpa using ended
    simp only [Bool.or_eq_true, decide_eq_true_eq, not_or, Nat.not_le, Nat.not_lt] at ranges
    cases same
    exact ⟨d, hour, minute, second, nanos, ahead, bs₁, bs₂, bs₃, bs₄, Nat.not_lt.mp long, date_,
      separator, clock_, fraction_, ⟨ranges.1.1, ranges.1.2, ranges.2⟩, none_ ▸ offset_,
      Nat.not_le.mp inDay, rfl⟩
  · rintro ⟨d, hour, minute, second, nanos, ahead, bs₁, bs₂, bs₃, bs₄, long, date_, separator,
      clock_, fraction_, ⟨hours, minutes, seconds⟩, offset_, inDay, rfl⟩
    refine ⟨Nat.not_lt.mpr long, (d, bs₁), date_, ((), bs₂), separator,
      ((hour, minute, second), bs₃), clock_, (nanos, bs₄), fraction_, ?_, (ahead, []), offset_,
      by simp, Nat.not_le.mpr inDay, rfl⟩
    simp
    omega

theorem fraction_lt {bs rest : Bytes} {nanos : Nat} (h : fraction bs = .ok (nanos, rest)) :
    nanos < Instant.nanosPerSecond := by
  unfold fraction at h
  split at h
  · next bs =>
    dsimp only at h
    split at h
    · next value found =>
      cases h
      have short : ((bs.takeWhile Octet.isDigit).take 9).length ≤ 9 := List.length_take_le _ _
      generalize (bs.takeWhile Octet.isDigit).take 9 = kept at found short
      obtain ⟨⟨-, -, rfl⟩, -⟩ := (Numeral.read?_eq_some_iff (Nat.pow_pos (by decide))).mp found
      calc Numeral.value kept * pow10 (9 - kept.length)
        _ < 10 ^ kept.length * 10 ^ (9 - kept.length) :=
          Nat.mul_lt_mul_of_pos_right (Numeral.value_lt kept) (Nat.pow_pos (by decide))
        _ = 10 ^ 9 := by rw [← Nat.pow_add, Nat.add_sub_cancel' short]
    · cases h
  · cases h
    decide

theorem offset_mod {bs rest : Bytes} {ahead : Int} (h : offset bs = .ok (ahead, rest)) :
    ahead % 60 = 0 := by
  unfold offset at h
  split at h
  · cases h
    rfl
  · cases h
    rfl
  · simp only [bind, bind_eq_ok] at h
    obtain ⟨⟨direction, _⟩, -, ⟨hours, _⟩, -, -, -, ⟨minutes, _⟩, -, same⟩ := h
    cases same
    have whole : (60 : Int) ∣ (hours * 3600 + minutes * 60 : Nat) := by omega
    exact Int.emod_eq_zero_of_dvd (whole.mul_left direction)

/-- **What is read exists.** -/
theorem valid_of_read {bs : Bytes} {t : Instant} (h : read bs = .ok t) : t.Valid := by
  obtain ⟨d, hour, minute, second, nanos, ahead, _, _, _, _, -, -, -, -, fraction_, ranges, offset_,
    -, rfl⟩ := read_eq_ok_iff.mp h
  have small := fraction_lt fraction_
  have minutes := offset_mod offset_
  by_cases sixtieth : second = 60
  · right
    simp only [instantOf, if_pos sixtieth, daySeconds]
    omega
  · left
    simpa only [instantOf, if_neg sixtieth] using small

theorem between_of_mem_writeMillis (t : Instant) : ∀ b ∈ writeMillis t, 0x22 < b ∧ b < 0x5C := by
  have number (width n : Nat) : ∀ b ∈ padded width n, 0x22 < b ∧ b < 0x5C := by
    intro b there
    have digit := isDigit_of_mem_padded there
    simp only [Octet.isDigit, Bool.and_eq_true, decide_eq_true_eq] at digit
    exact ⟨UInt8.lt_of_lt_of_le (by decide) digit.1, UInt8.lt_of_le_of_lt digit.2 (by decide)⟩
  have year (y : Int) : ∀ b ∈ writeYear y, 0x22 < b ∧ b < 0x5C := by
    rw [writeYear]
    split
    · exact number 4 _
    · split <;> exact List.forall_mem_cons.mpr ⟨by decide, number 4 _⟩
  have marks : ∀ b ∈ ([0x2D, 0x54, 0x3A, 0x2E, 0x5A] : Bytes), 0x22 < b ∧ b < 0x5C := by
    decide +kernel
  simp only [List.forall_mem_cons] at marks
  simp only [writeMillis, writeWith, List.forall_mem_append, List.forall_mem_cons, marks,
    true_and, and_true]
  refine ⟨⟨⟨⟨⟨⟨⟨?_, ?_⟩, ?_⟩, ?_⟩, ?_⟩, ?_⟩, ?_⟩, List.forall_mem_nil _⟩
  · exact year _
  all_goals exact number _ _

theorem isAscii_writeMillis (t : Instant) : (writeMillis t).IsAscii := by
  intro b there
  exact UInt8.lt_trans (between_of_mem_writeMillis t b there).2 (by decide)

theorem le_length_padded (width n : Nat) : width ≤ (padded width n).length := by
  simp only [padded, List.length_append, List.length_replicate]
  omega

theorem le_length_writeMillis (t : Instant) : 19 ≤ (writeMillis t).length := by
  have year : 4 ≤ (writeYear (Civil.ofDays (t.seconds / daySeconds)).year).length := by
    rw [writeYear]
    split
    · exact le_length_padded 4 _
    · exact Nat.le_succ_of_le (le_length_padded 4 _)
  have two := le_length_padded 2
  simp only [writeMillis, writeWith, List.length_append, List.length_cons]
  have month := two (Civil.ofDays (t.seconds / daySeconds)).month
  have day := two (Civil.ofDays (t.seconds / daySeconds)).day
  have hour := two ((t.seconds % daySeconds).toNat / 3600)
  have minute := two ((t.seconds % daySeconds).toNat / 60 % 60)
  have second := two ((t.seconds % daySeconds).toNat % 60 +
    if t.nanos ≥ Instant.nanosPerSecond then 1 else 0)
  omega

theorem read_of_not_digit {b : UInt8} {bs : Bytes} (long : 19 ≤ (b :: bs).length)
    (other : Octet.isDigit b = false) : read (b :: bs) = .error .invalid := by
  have none_ : Numeral.read? (pow10 4) ((b :: bs).take 4) = none := by
    simp [Numeral.read?, Numeral.readFrom, Octet.digit?, other]
  have year : digits 4 (b :: bs) = .error .invalid := by
    rw [digits, none_, if_neg (by rw [List.length_take]; omega)]
  have stop : date (b :: bs) = .error .invalid := by
    rw [date, year]
    rfl
  rw [read, if_neg (Nat.not_lt.mpr long), stop]
  rfl

/-- **What is written in milliseconds is read back** in whole milliseconds, if the year has four
digits. -/
theorem read_writeMillis {t : Instant} (valid : t.Valid) (plain : t.HasPlainYear) :
    read (writeMillis t) = .ok t.wholeMillis := by
  obtain ⟨second, hour_eq, inDay, sum, minute⟩ := exists_second t
  obtain ⟨leap, millis, leap_eq, millis_eq, inSecond, last, whole⟩ := exists_millis valid
  have sixtieth : leap ≤ 1 := by omega
  have reading : instantOf (Civil.ofDays (t.seconds / daySeconds)) (second / 3600)
      (second / 60 % 60) (second % 60 + leap) (millis * 1000000) 0 = t.wholeMillis := by
    rw [instantOf_reading sixtieth (by omega), Civil.toDays_ofDays, sum, whole]
  obtain ⟨least, most⟩ := plain
  have exists_ := Civil.valid_ofDays (t.seconds / daySeconds)
  have long := le_length_writeMillis t
  rw [Instant.year] at least most
  rw [writeMillis, writeWith] at long ⊢
  simp only [hour_eq, leap_eq, millis_eq] at long ⊢
  generalize Civil.ofDays (t.seconds / daySeconds) = d at *
  have year : d.year = d.year.toNat := (Int.toNat_of_nonneg least).symm
  have stamp : writeYear d.year = padded 4 d.year.toNat := if_pos ⟨least, most⟩
  simp only [stamp, List.append_assoc, List.cons_append] at long ⊢
  exact read_eq_ok_iff.mpr ⟨d, second / 3600, second / 60 % 60, second % 60 + leap,
    millis * 1000000, 0, _, _, _, _, long, date_written _ exists_ year (by omega), rfl,
    clock_written _ (by omega) (by omega) (by omega), fraction_written _ inSecond,
    ⟨by omega, by omega, by omega⟩, rfl, by decide, reading.symm⟩

/-- **A year that has not four digits is not read**: the reader stops at its sign. -/
theorem read_writeMillis_of_not {t : Instant} (other : ¬ t.HasPlainYear) :
    read (writeMillis t) = .error .invalid := by
  have long := le_length_writeMillis t
  rw [Instant.HasPlainYear, Instant.year] at other
  rw [writeMillis, writeWith] at long ⊢
  simp only [writeYear, if_neg other, List.cons_append] at long ⊢
  refine read_of_not_digit long ?_
  split <;> rfl

end Rfc3339

end PaymentRelay
