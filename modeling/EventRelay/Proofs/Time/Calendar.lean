import EventRelay.Time.Calendar

/-!
# The calendar numbers its days

Every day has a date of the calendar (`valid_dateOf`), and the number of its date is the number of
the day (`dayNumber_dateOf`). Both come from the place of the day in its year: `day_in_year` finds
the year, century by century, and `day_in_month` the month, for each of the days of a year that
begins in March.
-/

namespace EventRelay.Calendar

def daysBefore (year : Nat) : Nat := 365 * year + year / 4 - year / 100

def yearOf (dayOfEra : Nat) : Nat :=
  (dayOfEra - dayOfEra / 1460 + dayOfEra / 36524 - dayOfEra / 146096) / 365

/-- The month, from January, of a day of a year that begins in March. -/
def monthOf (dayOfYear : Nat) : Nat :=
  if (5 * dayOfYear + 2) / 153 < 10 then (5 * dayOfYear + 2) / 153 + 3
  else (5 * dayOfYear + 2) / 153 - 9

/-- The day of the month of a day of a year that begins in March. -/
def dayOf (dayOfYear : Nat) : Nat := dayOfYear - (153 * ((5 * dayOfYear + 2) / 153) + 2) / 5 + 1

/-- The year of a century: the days that are dropped are its leap days. A year has 365 days or, if
the year in which it ends is a leap year, 366. -/
theorem day_in_century {century n year : Nat} (hc : century < 4) (h : n < 36524)
    (hyear : (n - (n + 24 * century) / 1460) / 365 = year) :
    year < 100 ∧ 365 * year + year / 4 ≤ n ∧ (n < 365 * year + year / 4 + 365 ∨
      n = 365 * year + year / 4 + 365 ∧ (year + 1) % 4 = 0 ∧ year + 1 < 100) := by
  generalize hleap : (n + 24 * century) / 1460 = leap at hyear
  have low : 365 * year + leap ≤ n := by omega
  have high : n ≤ 365 * year + 364 + leap := by omega
  have fourths : year = 4 * (year / 4) + year % 4 := by omega
  have : year / 4 ≤ leap := by omega
  have : leap ≤ year / 4 + 1 := by omega
  have : year < 100 := by omega
  refine ⟨this, by omega, ?_⟩
  by_cases long : n < 365 * year + year / 4 + 365
  · exact .inl long
  · have : leap = year / 4 + 1 := by omega
    have : year % 4 = 3 := by omega
    exact .inr ⟨by omega, by omega, by omega⟩

/-- The year of an era. -/
theorem day_in_year {n : Nat} (h : n < 146097) :
    yearOf n < 400 ∧ daysBefore (yearOf n) ≤ n ∧ (n < daysBefore (yearOf n) + 365 ∨
      n = daysBefore (yearOf n) + 365 ∧ isLeap (yearOf n + 1) = true) := by
  by_cases last : n = 146096
  · subst last
    decide
  · obtain ⟨c, m, rfl, hc, hm⟩ : ∃ c m, n = 36524 * c + m ∧ c < 4 ∧ m < 36524 :=
      ⟨n / 36524, n % 36524, by omega, by omega, by omega⟩
    obtain ⟨within, low, high⟩ := day_in_century hc hm rfl
    generalize hyear : (m - (m + 24 * c) / 1460) / 365 = year at *
    have split : yearOf (36524 * c + m) = 100 * c + year := by
      have leap : (36524 * c + m) / 1460 = 25 * c + (m + 24 * c) / 1460 := by omega
      have century : (36524 * c + m) / 36524 = c := by omega
      have era : (36524 * c + m) / 146096 = 0 := by omega
      unfold yearOf
      rw [leap, century, era]
      omega
    have fourths : (100 * c + year) / 4 = 25 * c + year / 4 := by omega
    have hundredths : (100 * c + year) / 100 = c := by omega
    have start : daysBefore (100 * c + year) = 36524 * c + (365 * year + year / 4) := by
      unfold daysBefore
      omega
    rw [split, start]
    refine ⟨by omega, by omega, ?_⟩
    rcases high with high | ⟨high, leap, inside⟩
    · exact .inl (by omega)
    · refine .inr ⟨by omega, ?_⟩
      simp only [isLeap, Bool.and_eq_true, beq_iff_eq, Bool.or_eq_true, bne_iff_ne]
      omega

/-- The month and the day of a day of a year; only the last day is a 29th of February. -/
theorem day_in_month : ∀ n < 366,
    (153 * (if monthOf n ≤ 2 then monthOf n + 9 else monthOf n - 3) + 2) / 5 + dayOf n = n + 1 ∧
      1 ≤ monthOf n ∧ 1 ≤ dayOf n ∧ dayOf n ≤ daysInMonth 0 (monthOf n) ∧
      (n < 306 ↔ 2 < monthOf n) ∧ (monthOf n = 2 → dayOf n = 29 → n = 365) := by
  decide +kernel

/-! ## Dates -/

/-- The date of a day by its era, its year of the era and its place in that year. -/
theorem dateOf_parts (day : Int) : ∃ (era : Int) (year n : Nat), year < 400 ∧ n < 366 ∧
    (n = 365 → isLeap (year + 1) = true) ∧
    day + epochShift = era * 146097 + (daysBefore year + n : Nat) ∧
    dateOf day = ⟨if monthOf n ≤ 2 then era * 400 + year + 1 else era * 400 + year,
      monthOf n, dayOf n⟩ := by
  have unfolded (era : Int) (dayOfEra : Nat) (hera : (day + epochShift) / 146097 = era)
      (hday : ((day + epochShift) - era * 146097).toNat = dayOfEra) :
      dateOf day = ⟨if monthOf (dayOfEra - daysBefore (yearOf dayOfEra)) ≤ 2
          then era * 400 + yearOf dayOfEra + 1 else era * 400 + yearOf dayOfEra,
        monthOf (dayOfEra - daysBefore (yearOf dayOfEra)),
        dayOf (dayOfEra - daysBefore (yearOf dayOfEra))⟩ := by
    subst hera hday
    rfl
  have date := unfolded _ _ rfl rfl
  generalize hera : (day + epochShift) / 146097 = era at date
  generalize hday : ((day + epochShift) - era * 146097).toNat = dayOfEra at date
  obtain ⟨within, low, high⟩ := day_in_year (n := dayOfEra) (by omega)
  exact ⟨era, _, _, within, by omega, fun hn => (high.resolve_left (by omega)).2, by omega, date⟩

/-- Leap years come back every four hundred years. -/
theorem isLeap_era (era year : Int) : isLeap (era * 400 + year) = isLeap year := by
  have four : (era * 400 + year) % 4 = year % 4 := by omega
  have hundred : (era * 400 + year) % 100 = year % 100 := by omega
  have all : (era * 400 + year) % 400 = year % 400 := by omega
  simp only [isLeap, four, hundred, all]

theorem daysInMonth_of_ne_two {month : Nat} (h : month ≠ 2) (year year' : Int) :
    daysInMonth year month = daysInMonth year' month := by
  unfold daysInMonth
  split <;> first | rfl | exact absurd rfl h

/-- **The number of the date of a day** is the number of the day. -/
theorem dayNumber_dateOf (day : Int) : dayNumber (dateOf day) = day := by
  obtain ⟨era, year, n, within, inYear, -, number, hdate⟩ := dateOf_parts day
  obtain ⟨sum, -, -, -, late, -⟩ := day_in_month n inYear
  rw [hdate]
  simp only [dayNumber, daysBefore] at number ⊢
  generalize monthOf n = month at *
  generalize dayOf n = d at *
  by_cases early : month ≤ 2
  · simp only [if_pos early] at sum ⊢
    have year_eq : (era * 400 + year + 1 - 1) / 400 = era := by omega
    rw [year_eq]
    omega
  · simp only [if_neg early] at sum ⊢
    have year_eq : (era * 400 + year) / 400 = era := by omega
    rw [year_eq]
    omega

/-- **The date of a day** is a date of the calendar. -/
theorem valid_dateOf (day : Int) : (dateOf day).valid = true := by
  obtain ⟨era, year, n, -, inYear, leap, -, hdate⟩ := dateOf_parts day
  obtain ⟨-, -, first, last, -, february⟩ := day_in_month n inYear
  rw [hdate, Date.valid]
  simp only [Bool.and_eq_true, decide_eq_true_eq]
  refine ⟨first, ?_⟩
  by_cases two : monthOf n = 2
  · rw [two] at last ⊢
    rw [if_pos (Nat.le_refl 2), Int.add_assoc]
    by_cases late : dayOf n = 29
    · have : isLeap (era * 400 + (year + 1)) = true := by
        rw [isLeap_era]
        exact leap (february two late)
      simp [daysInMonth, this, late]
    · have : dayOf n ≤ 29 := last
      simp only [daysInMonth]
      split <;> omega
  · rwa [daysInMonth_of_ne_two two _ 0]

/-- Time does not leave the years −262143 to 262142. -/
theorem year_dateOf_mem (day : Int) (first : -96465292 ≤ day) (last : day ≤ 95026236) :
    -262143 ≤ (dateOf day).year ∧ (dateOf day).year ≤ 262142 := by
  obtain ⟨era, year, n, within, inYear, -, number, hdate⟩ := dateOf_parts day
  obtain ⟨-, -, -, -, late, -⟩ := day_in_month n inYear
  rw [hdate]
  simp only [daysBefore, epochShift] at number ⊢
  have eras : -656 ≤ era ∧ era ≤ 655 := by omega
  have firstYears : era = -656 → 256 ≤ year := by omega
  have lastYears : era = 655 → year ≤ 142 := by omega
  split
  · have : era = 655 → year ≠ 142 := by omega
    omega
  · have : era = -656 → year ≠ 256 := by omega
    omega

/-- The month of a date is one of the twelve. -/
theorem month_dateOf_mem (day : Int) : 1 ≤ (dateOf day).month ∧ (dateOf day).month ≤ 12 := by
  obtain ⟨era, year, n, -, inYear, -, -, hdate⟩ := dateOf_parts day
  rw [hdate]
  simp only [monthOf]
  split <;> omega

theorem day_dateOf_mem (day : Int) : 1 ≤ (dateOf day).day ∧ (dateOf day).day ≤ 31 := by
  have valid := valid_dateOf day
  have most : daysInMonth (dateOf day).year (dateOf day).month ≤ 31 := by
    unfold daysInMonth
    repeat' split
    all_goals decide
  simp only [Date.valid, Bool.and_eq_true, decide_eq_true_eq] at valid
  omega

end EventRelay.Calendar
