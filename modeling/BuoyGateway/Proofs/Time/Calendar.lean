import BuoyGateway.Time.Calendar

/-!
# Days and dates

A period of 400 years is cut into four centuries, each but the last a day short, a century into
spans of four years, and a span into four years, the last of them a leap year. From the year of a
day within its period and the day of that year, the date is found and leads back to the day.
-/

namespace BuoyGateway.Time

namespace Date

/-- The year of a day, both counted from the beginning of their period. -/
def yearOfPeriod (day : Int) : Int := (day - day / 1460 + day / 36524 - day / 146096) / 365

/-- The days of a period that lie before a year of it. -/
def daysBefore (year : Int) : Int := 365 * year + year / 4 - year / 100

/-- A day of a period lies in one of its years, and in the last place only if that year ends with a
leap day. -/
theorem yearOfPeriod_spec {day : Int} (hl : 0 ≤ day) (hh : day < 146097) :
    0 ≤ yearOfPeriod day ∧ yearOfPeriod day < 400 ∧ daysBefore (yearOfPeriod day) ≤ day ∧
      day ≤ daysBefore (yearOfPeriod day) + 365 ∧
      (day = daysBefore (yearOfPeriod day) + 365 →
        (yearOfPeriod day + 1) % 4 = 0 ∧
          ((yearOfPeriod day + 1) % 100 = 0 → yearOfPeriod day = 399)) := by
  by_cases hlast : day = 146096
  · subst hlast
    decide
  -- A day within its span of four years, one of 25 in a century, one of 4 in the period.
  obtain ⟨century, span, rest, rfl, hc, hs, hr, hshort⟩ :
      ∃ century span rest : Int, day = 36524 * century + 1461 * span + rest ∧
        (0 ≤ century ∧ century < 4) ∧ (0 ≤ span ∧ span < 25) ∧ (0 ≤ rest ∧ rest < 1461) ∧
        (rest = 1460 → span ≠ 24) :=
    ⟨day / 36524, day % 36524 / 1461, day % 36524 % 1461, by omega, by omega, by omega, by omega,
      by omega⟩
  have hyear : ∃ year, (0 ≤ year ∧ year < 4) ∧ (365 * year ≤ rest ∧ rest ≤ 365 * year + 365) ∧
      (rest = 365 * year + 365 → year = 3) ∧
      yearOfPeriod (36524 * century + 1461 * span + rest) = 100 * century + 4 * span + year := by
    refine ⟨(rest - (24 * century + span + rest) / 1460) / 365, ?_, ?_, ?_, ?_⟩
    · omega
    · omega
    · omega
    · unfold yearOfPeriod
      omega
  obtain ⟨year, hy, hin, hleap, heq⟩ := hyear
  have hbefore : daysBefore (100 * century + 4 * span + year) =
      36524 * century + 1461 * span + 365 * year := by
    have hspans : (100 * century + 4 * span + year) / 4 = 25 * century + span := by omega
    have hcenturies : (100 * century + 4 * span + year) / 100 = century := by omega
    rw [daysBefore, hspans, hcenturies]
    omega
  rw [heq, hbefore]
  omega

/-- The date of a day of a year that begins in March. -/
def inYear (year day : Int) : Date :=
  let month := (5 * day + 2) / 153
  ⟨if month < 10 then year else year + 1, (if month < 10 then month + 3 else month - 9).toNat,
    (day - (153 * month + 2) / 5 + 1).toNat⟩

theorem ofDays_eq_inYear {period day : Int} (hl : 0 ≤ day) (hh : day < 146097) :
    ofDays (146097 * period + day - 719468) =
      inYear (400 * period + yearOfPeriod day) (day - daysBefore (yearOfPeriod day)) := by
  have hperiod : (146097 * period + day - 719468 + 719468) / 146097 = period := by omega
  have hday : (146097 * period + day - 719468 + 719468) % 146097 = day := by omega
  obtain ⟨hy, hy', hbefore, hin, -⟩ := yearOfPeriod_spec hl hh
  obtain ⟨month, hmonth⟩ : ∃ month,
      month = (5 * (day - daysBefore (yearOfPeriod day)) + 2) / 153 := ⟨_, rfl⟩
  have hm : 0 ≤ month ∧ month < 12 := by omega
  simp only [yearOfPeriod, daysBefore] at hmonth
  simp only [ofDays, hperiod, hday, inYear, yearOfPeriod, daysBefore, ← hmonth]
  rw [Date.mk.injEq]
  -- One side tests the month after it is counted from January, the other one before.
  refine ⟨?_, rfl, rfl⟩
  by_cases h : month < 10
  · rw [if_pos h, if_neg (show ¬month + 3 ≤ 2 by omega), if_pos h]
    omega
  · rw [if_neg h, if_pos (show month - 9 ≤ 2 by omega), if_neg h]
    omega

theorem toDays_inYear {period year day : Int} (hy : 0 ≤ year ∧ year < 400)
    (hd : 0 ≤ day ∧ day ≤ 365) :
    (inYear (400 * period + year) day).toDays =
      146097 * period + daysBefore year + day - 719468 := by
  obtain ⟨month, hmonth⟩ : ∃ month, month = (5 * day + 2) / 153 := ⟨_, rfl⟩
  have hday : ((day - (153 * month + 2) / 5 + 1).toNat : Int) =
      day - (153 * month + 2) / 5 + 1 := by omega
  simp only [inYear, toDays, ← hmonth, hday, daysBefore]
  by_cases h : month < 10
  · have h2 : ¬(month + 3).toNat ≤ 2 := by omega
    have hmo : (((month + 3).toNat : Int) + 9) % 12 = month := by omega
    have hyear : (400 * period + year) / 400 = period := by omega
    have hyear' : (400 * period + year) % 400 = year := by omega
    simp only [if_pos h, if_neg h2, hyear, hyear', hmo]
    omega
  · have h2 : (month - 9).toNat ≤ 2 := by omega
    have hmo : (((month - 9).toNat : Int) + 9) % 12 = month := by omega
    have hyear : (400 * period + year + 1 - 1) / 400 = period := by omega
    have hyear' : (400 * period + year + 1 - 1) % 400 = year := by omega
    simp only [if_neg h, if_pos h2, hyear, hyear', hmo]
    omega

theorem isValid_inYear {year day : Int} (hd : 0 ≤ day ∧ day ≤ 365)
    (hleap : day = 365 → isLeapYear (year + 1) = true) : (inYear year day).isValid = true := by
  obtain ⟨month, hmonth⟩ : ∃ month, month = (5 * day + 2) / 153 := ⟨_, rfl⟩
  simp only [inYear, isValid, ← hmonth, Bool.and_eq_true, decide_eq_true_eq]
  have hday : 1 ≤ day - (153 * month + 2) / 5 + 1 := by omega
  refine ⟨by omega, ?_⟩
  have hcases : month = 0 ∨ month = 1 ∨ month = 2 ∨ month = 3 ∨ month = 4 ∨ month = 5 ∨
      month = 6 ∨ month = 7 ∨ month = 8 ∨ month = 9 ∨ month = 10 ∨ month = 11 := by omega
  rcases hcases with rfl | rfl | rfl | rfl | rfl | rfl | rfl | rfl | rfl | rfl | rfl | rfl
  case inr.inr.inr.inr.inr.inr.inr.inr.inr.inr.inr =>
    change _ ≤ if isLeapYear (year + 1) then 29 else 28
    by_cases h : day = 365
    · rw [if_pos (hleap h)]
      omega
    · split <;> omega
  all_goals
    first
    | exact show (_ : Nat) ≤ 31 by omega
    | exact show (_ : Nat) ≤ 30 by omega

theorem month_inYear {year day : Int} (hd : 0 ≤ day ∧ day ≤ 365) :
    1 ≤ (inYear year day).month ∧ (inYear year day).month ≤ 12 := by
  unfold inYear
  dsimp only
  split <;> omega

/-- Every day is one of a year, the last of them only if it is a leap day. -/
theorem exists_inYear (days : Int) :
    ∃ period year day : Int, (0 ≤ year ∧ year < 400) ∧ (0 ≤ day ∧ day ≤ 365) ∧
      (day = 365 → isLeapYear (400 * period + year + 1) = true) ∧
      days = 146097 * period + daysBefore year + day - 719468 ∧
      ofDays days = inYear (400 * period + year) day := by
  obtain ⟨period, rest, hl, hh, rfl⟩ : ∃ period rest : Int, 0 ≤ rest ∧ rest < 146097 ∧
      days = 146097 * period + rest - 719468 :=
    ⟨(days + 719468) / 146097, (days + 719468) % 146097, by omega, by omega, by omega⟩
  obtain ⟨hy, hy', hbefore, hin, hleap⟩ := yearOfPeriod_spec hl hh
  refine ⟨period, yearOfPeriod rest, rest - daysBefore (yearOfPeriod rest), ⟨hy, hy'⟩, by omega,
    fun h => ?_, by omega, ofDays_eq_inYear hl hh⟩
  obtain ⟨hfour, hhundred⟩ := hleap (by omega)
  simp only [isLeapYear, Bool.and_eq_true, Bool.or_eq_true, beq_iff_eq, bne_iff_ne]
  omega

theorem toDays_ofDays (days : Int) : (ofDays days).toDays = days := by
  obtain ⟨period, year, day, hy, hd, -, hdays, hdate⟩ := exists_inYear days
  rw [hdate, toDays_inYear hy hd, hdays]

theorem isValid_ofDays (days : Int) : (ofDays days).isValid = true := by
  obtain ⟨period, year, day, -, hd, hleap, -, hdate⟩ := exists_inYear days
  rw [hdate]
  exact isValid_inYear hd hleap

theorem month_ofDays (days : Int) : 1 ≤ (ofDays days).month ∧ (ofDays days).month ≤ 12 := by
  obtain ⟨period, year, day, -, hd, -, -, hdate⟩ := exists_inYear days
  rw [hdate]
  exact month_inYear hd

theorem day_ofDays (days : Int) : 1 ≤ (ofDays days).day ∧ (ofDays days).day ≤ 31 := by
  have h := isValid_ofDays days
  rw [isValid, Bool.and_eq_true, decide_eq_true_eq, decide_eq_true_eq] at h
  have hle : daysInMonth (ofDays days).year (ofDays days).month ≤ 31 := by
    unfold daysInMonth
    split
    · split <;> decide
    all_goals decide
  exact ⟨h.1, Nat.le_trans h.2 hle⟩

end Date

end BuoyGateway.Time
