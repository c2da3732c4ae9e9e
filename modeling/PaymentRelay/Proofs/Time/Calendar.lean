import PaymentRelay.Time.Civil

/-!
# The calendar runs through the days

The date of a day exists, and it is that day's. In an era the years are four to a leap year, 25 such
to a century, and four centuries to the era, and only the last of each four may be a day longer; so
a day of an era is told by its century, the four years in it, the year in those and the day in that,
and all the formulas of the calendar are linear in these.
-/

namespace PaymentRelay.Civil

/-- The parts of a day of an era: the day `day` of year `year` of the `four`th four years of a
century. The last day of a leap year is the day 365, and a century ends without one, except the last
of the era. -/
structure EraDay where
  century : Nat
  four : Nat
  year : Nat
  day : Nat
  century_lt : century < 4
  four_lt : four < 25
  year_lt : year < 4
  day_le : day ≤ 365
  leap : day = 365 → year = 3 ∧ (four = 24 → century = 3)

namespace EraDay

/-- The day counted from the start of the era. -/
def number (e : EraDay) : Nat := 36524 * e.century + 1461 * e.four + 365 * e.year + e.day

/-- The year counted from the start of the era. -/
def yearOfEra (e : EraDay) : Nat := 100 * e.century + 4 * e.four + e.year

theorem exists_number {n : Nat} (h : n < 146097) : ∃ e : EraDay, e.number = n := by
  let century := min (n / 36524) 3
  let inCentury := n - 36524 * century
  let four := min (inCentury / 1461) 24
  let inFour := inCentury - 1461 * four
  let year := min (inFour / 365) 3
  refine ⟨⟨century, four, year, inFour - 365 * year, ?_, ?_, ?_, ?_, ?_⟩, ?_⟩ 
  · omega
  · omega
  · omega
  · omega
  · omega
  · simp only [number]
    omega

/-- The formula for the year of an era. -/
theorem yearOfEra_eq (e : EraDay) :
    (e.number - e.number / 1460 + e.number / 36524 - e.number / 146096) / 365 = e.yearOfEra := by
  obtain ⟨c, f, y, d, hc, hf, hy, hd, leap⟩ := e
  simp only [number, yearOfEra]
  -- on the last day of the era both of the longer quotients are one more
  by_cases final : 36524 * c + 1461 * f + 365 * y + d = 146096
  · rw [final]
    omega
  have none_ : (36524 * c + 1461 * f + 365 * y + d) / 146096 = 0 := Nat.div_eq_of_lt (by omega)
  have centuries : (36524 * c + 1461 * f + 365 * y + d) / 36524 = c :=
    Nat.div_eq_of_lt_le (by omega) (by omega)
  -- the shortest quotient counts the fours, and one more on the last days of a four
  have fours : (36524 * c + 1461 * f + 365 * y + d) / 1460
      = 25 * c + f + (24 * c + f + 365 * y + d) / 1460 := by omega
  rw [none_, centuries, fours]
  by_cases carry : 1460 ≤ 24 * c + f + 365 * y + d
  · have one : (24 * c + f + 365 * y + d) / 1460 = 1 :=
      Nat.div_eq_of_lt_le (by omega) (by omega)
    rw [one]
    exact Nat.div_eq_of_lt_le (by omega) (by omega)
  · rw [Nat.div_eq_of_lt (Nat.lt_of_not_le carry)]
    exact Nat.div_eq_of_lt_le (by omega) (by omega)

theorem daysBefore_eq (e : EraDay) :
    365 * e.yearOfEra + e.yearOfEra / 4 - e.yearOfEra / 100 + e.day = e.number := by
  obtain ⟨c, f, y, d, hc, hf, hy, hd, leap⟩ := e
  simp only [number, yearOfEra]
  omega

end EraDay

/-! ## Months -/

/-- The month in which a day of the year falls, where March is the month 0. -/
def monthFromMarch (day : Nat) : Nat := (5 * day + 2) / 153

/-- The number of the month in which a day of the year falls. -/
def monthOf (day : Nat) : Nat :=
  if monthFromMarch day < 10 then monthFromMarch day + 3 else monthFromMarch day - 9

/-- The day of the month on which a day of the year falls. -/
def dayOfMonth (day : Nat) : Nat := day - (153 * monthFromMarch day + 2) / 5 + 1

theorem monthLength_eq (year : Int) (month : Nat) :
    monthLength year month = monthLength (if isLeap year then 0 else 1) month := by
  cases h : isLeap year with
  | false => simp [monthLength, h, show isLeap 1 = false from rfl]
  | true => simp [monthLength, h, show isLeap 0 = true from rfl]

theorem monthLength_le (year : Int) (month : Nat) : monthLength year month ≤ 31 := by
  unfold monthLength
  split
  · split <;> omega
  all_goals omega

/-- A day of the year falls on a day that its month has. Only the last day of a leap year falls on a
leap day. -/
theorem dayOfMonth_le {day : Nat} (h : day < 366) :
    (1 ≤ monthOf day ∧ monthOf day ≤ 12 ∧ 1 ≤ dayOfMonth day) ∧
      dayOfMonth day ≤ monthLength 0 (monthOf day) ∧
      (day < 365 → dayOfMonth day ≤ monthLength 1 (monthOf day)) := by
  revert day
  decide +kernel

theorem dayOfYear_of_month {day : Nat} (h : day < 366) :
    (153 * ((monthOf day + 9) % 12) + 2) / 5 + dayOfMonth day - 1 = day ∧
      (365 ≤ day → monthOf day ≤ 2) := by
  revert day
  decide +kernel

/-! ## Dates -/

def EraDay.date (era : Int) (e : EraDay) : Date :=
  let year := era * 400 + e.yearOfEra
  ⟨if monthOf e.day ≤ 2 then year + 1 else year, monthOf e.day, dayOfMonth e.day⟩

/-- The date of a day is the date of that day's era and its parts. -/
theorem ofDays_eq (days : Int) : ∃ (era : Int) (e : EraDay),
    days = era * 146097 + e.number - 719468 ∧ ofDays days = e.date era := by
  have small : ((days + 719468) % 146097).toNat < 146097 := by omega
  obtain ⟨e, same⟩ := EraDay.exists_number small
  refine ⟨(days + 719468) / 146097, e, by omega, ?_⟩
  have rest : e.number - (365 * e.yearOfEra + e.yearOfEra / 4 - e.yearOfEra / 100) = e.day := by
    have := e.daysBefore_eq
    omega
  simp only [ofDays, ← same, e.yearOfEra_eq, rest]
  rfl

theorem EraDay.isLeap_of_day (era : Int) (e : EraDay) (h : e.day = 365) :
    isLeap (era * 400 + e.yearOfEra + 1) = true := by
  obtain ⟨last, end_⟩ := e.leap h
  have four := e.four_lt
  simp only [isLeap, EraDay.yearOfEra, last]
  simp
  omega

theorem EraDay.valid_date (era : Int) (e : EraDay) : (e.date era).valid = true := by
  have small : e.day < 366 := Nat.lt_succ_of_le e.day_le
  obtain ⟨⟨first, last, one⟩, leap, common⟩ := dayOfMonth_le small
  have fits : dayOfMonth e.day ≤ monthLength (e.date era).year (monthOf e.day) := by
    rw [monthLength_eq]
    split
    · exact leap
    · next not_ =>
      refine common (Nat.lt_of_le_of_ne e.day_le fun final ↦ not_ ?_)
      have year : (e.date era).year = era * 400 + e.yearOfEra + 1 :=
        if_pos ((dayOfYear_of_month small).2 (Nat.le_of_eq final.symm))
      rw [year]
      exact e.isLeap_of_day era final
  simp only [Date.valid, Bool.and_eq_true, decide_eq_true_eq]
  exact ⟨⟨⟨first, last⟩, one⟩, fits⟩

theorem EraDay.toDays_date (era : Int) (e : EraDay) :
    (e.date era).toDays = era * 146097 + e.number - 719468 := by
  obtain ⟨same, -⟩ := dayOfYear_of_month (Nat.lt_succ_of_le e.day_le)
  have year : (if (e.date era).month ≤ 2 then (e.date era).year - 1 else (e.date era).year)
      = era * 400 + e.yearOfEra := by
    simp only [EraDay.date]
    split <;> omega
  have inEra : e.yearOfEra < 400 := by
    have := e.century_lt
    have := e.four_lt
    have := e.year_lt
    simp only [EraDay.yearOfEra]
    omega
  have number := e.daysBefore_eq
  have era_ : (era * 400 + e.yearOfEra : Int) / 400 = era := by omega
  have inEra_ : (era * 400 + e.yearOfEra : Int) % 400 = e.yearOfEra := by omega
  simp only [Date.toDays, year, era_, inEra_]
  change era * 146097 + ((e.yearOfEra : Int) * 365 + (e.yearOfEra : Int) / 4
    - (e.yearOfEra : Int) / 100
    + ((153 * ((monthOf e.day + 9) % 12) + 2) / 5 + dayOfMonth e.day - 1 : Nat)) - 719468 = _
  rw [same]
  omega

/-- **The date of a day exists.** -/
theorem valid_ofDays (days : Int) : (ofDays days).valid = true := by
  obtain ⟨era, e, -, date⟩ := ofDays_eq days
  rw [date, e.valid_date]

/-- **The date of a day is that day's.** -/
theorem toDays_ofDays (days : Int) : (ofDays days).toDays = days := by
  obtain ⟨era, e, same, date⟩ := ofDays_eq days
  rw [date, e.toDays_date, same]

end PaymentRelay.Civil
