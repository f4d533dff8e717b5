import BuoyGateway.Proofs.Decimal.Order
import BuoyGateway.Proofs.Time.Rfc3339
import BuoyGateway.Time.Instant

/-!
# The order of stamps

Later days have later dates, and later readings of a clock later stamps, unless they lie within the
same microsecond: then the stamps are the same.
-/

namespace BuoyGateway.Time

namespace Date

/-- The day on which a year begins that is taken to begin in March, counted from some day. -/
def marchOf (year : Int) : Int := 365 * year + year / 4 - year / 100 + year / 400

def Before (date date' : Date) : Prop :=
  date.year < date'.year ∨ date.year = date'.year ∧
    (date.month < date'.month ∨ date.month = date'.month ∧ date.day < date'.day)

theorem marchOf_succ (year : Int) :
    marchOf year + 365 ≤ marchOf (year + 1) ∧
      (isLeapYear (year + 1) = true → marchOf year + 366 ≤ marchOf (year + 1)) := by
  simp only [marchOf, isLeapYear, Bool.and_eq_true, Bool.or_eq_true, beq_iff_eq, bne_iff_ne]
  omega

theorem marchOf_mono {year year' : Int} (h : year ≤ year') : marchOf year ≤ marchOf year' := by
  unfold marchOf
  omega

/-- Every day is one of a year that is taken to begin in March, and lies before the next one. -/
theorem exists_march (days : Int) :
    ∃ year day : Int, (0 ≤ day ∧ day ≤ 365) ∧ marchOf year + day < marchOf (year + 1) ∧
      days = marchOf year + day - 719468 ∧ ofDays days = inYear year day := by
  obtain ⟨period, year, day, hy, hd, hleap, hdays, hdate⟩ := exists_inYear days
  have hmarch : marchOf (400 * period + year) = 146097 * period + daysBefore year := by
    simp only [marchOf, daysBefore]
    omega
  obtain ⟨hshort, hlong⟩ := marchOf_succ (400 * period + year)
  refine ⟨400 * period + year, day, hd, ?_, by rw [hmarch, hdays], hdate⟩
  by_cases h : day = 365
  · have := hlong (hleap h)
    omega
  · omega

theorem inYear_before {year year' day day' : Int} (hd : 0 ≤ day ∧ day ≤ 365)
    (hd' : 0 ≤ day' ∧ day' ≤ 365) (h : year < year' ∨ year = year' ∧ day < day') :
    (inYear year day).Before (inYear year' day') := by
  obtain ⟨month, hmonth⟩ : ∃ month, month = (5 * day + 2) / 153 := ⟨_, rfl⟩
  obtain ⟨month', hmonth'⟩ : ∃ month, month = (5 * day' + 2) / 153 := ⟨_, rfl⟩
  simp only [Before, inYear, ← hmonth, ← hmonth']
  by_cases hm : month < 10 <;> by_cases hm' : month' < 10 <;>
    simp only [hm, hm', if_true, if_false] <;> omega

theorem ofDays_before {days days' : Int} (h : days < days') : (ofDays days).Before (ofDays days') := by
  obtain ⟨year, day, hd, -, hdays, hdate⟩ := exists_march days
  obtain ⟨year', day', hd', hnext', hdays', hdate'⟩ := exists_march days'
  rw [hdate, hdate']
  refine inYear_before hd hd' ?_
  by_contra hnot
  have hle : year' + 1 ≤ year ∨ year = year' ∧ day' ≤ day := by omega
  rcases hle with hle | ⟨rfl, hle⟩
  · have := marchOf_mono hle
    omega
  · omega

end Date

/-- The time of the day, to the microsecond, comes before the other one. -/
def Moment.ClockBefore (m m' : Moment) : Prop :=
  m.hour < m'.hour ∨ m.hour = m'.hour ∧ (m.minute < m'.minute ∨ m.minute = m'.minute ∧
    (m.second < m'.second ∨ m.second = m'.second ∧ m.nanos / 1000 < m'.nanos / 1000))

namespace Instant

variable {t t' : Instant}

def Earlier (t t' : Instant) : Prop :=
  t.seconds < t'.seconds ∨ t.seconds = t'.seconds ∧ t.nanos / 1000 < t'.nanos / 1000

def SameMicro (t t' : Instant) : Prop :=
  t.seconds = t'.seconds ∧ t.nanos / 1000 = t'.nanos / 1000

def NotAfter (t t' : Instant) : Prop :=
  t.seconds < t'.seconds ∨ t.seconds = t'.seconds ∧ t.nanos ≤ t'.nanos

instance (t t' : Instant) : Decidable (t.SameMicro t') := inferInstanceAs (Decidable (_ ∧ _))

instance (t t' : Instant) : Decidable (t.NotAfter t') := inferInstanceAs (Decidable (_ ∨ _))

theorem NotAfter.refl (t : Instant) : t.NotAfter t := Or.inr ⟨rfl, Nat.le_refl _⟩

theorem NotAfter.trans {t'' : Instant} (h : t.NotAfter t') (h' : t'.NotAfter t'') :
    t.NotAfter t'' := by
  unfold NotAfter at *
  omega

theorem NotAfter.earlier_or_same (h : t.NotAfter t') : t.Earlier t' ∨ t.SameMicro t' := by
  unfold NotAfter Earlier SameMicro at *
  omega

theorem fileStamp_eq (h : t.IsReading) (rest : List Char) :
    t.fileStamp ++ rest = Decimal.padded 4 t.toMoment.date.year.toNat ++
      (Decimal.padded 2 t.toMoment.date.month ++ (Decimal.padded 2 t.toMoment.date.day ++
        'T' :: (Decimal.padded 2 t.toMoment.hour ++ (Decimal.padded 2 t.toMoment.minute ++
          (Decimal.padded 2 t.toMoment.second ++
            '.' :: (Decimal.padded 6 (t.toMoment.nanos / 1000) ++ rest)))))) := by
  have hyear : yearDigits t.toMoment.date.year = Decimal.padded 4 t.toMoment.date.year.toNat := by
    have hnat : t.toMoment.date.year.natAbs = t.toMoment.date.year.toNat := by
      have := h.2
      omega
    rw [yearDigits, if_pos (by simp [h.2]), hnat]
  simp only [fileStamp, hyear, List.append_assoc, List.cons_append, List.nil_append]

theorem fileStamp_congr (h : t.SameMicro t') : t.fileStamp = t'.fileStamp := by
  obtain ⟨seconds, nanos⟩ := t
  obtain ⟨seconds', nanos'⟩ := t'
  obtain ⟨rfl, hmicros⟩ := h
  have hover : nanos / nanosPerSecond = nanos' / nanosPerSecond := by
    simp only [nanosPerSecond] at *
    omega
  have hmicro : nanos % nanosPerSecond / 1000 = nanos' % nanosPerSecond / 1000 := by
    simp only [nanosPerSecond] at *
    omega
  simp only [fileStamp, toMoment, hover, hmicro]

/-- A later reading has a later date, or the same date and a later time of the day. -/
theorem toMoment_before (h : t.IsReading) (hlt : t.Earlier t') :
    t.toMoment.date.Before t'.toMoment.date ∨
      t.toMoment.date = t'.toMoment.date ∧ t.toMoment.ClockBefore t'.toMoment := by
  obtain ⟨seconds, nanos⟩ := t
  obtain ⟨seconds', nanos'⟩ := t'
  have hleap := h.1
  simp only [Earlier] at hlt
  simp only [nanosPerSecond] at hleap
  by_cases hday : seconds / 86400 < seconds' / 86400
  · exact Or.inl (Date.ofDays_before hday)
  · have hsame : seconds / 86400 = seconds' / 86400 := by omega
    refine Or.inr ⟨by simp only [toMoment, hsame], ?_⟩
    simp only [Moment.ClockBefore, toMoment, nanosPerSecond]
    omega

theorem IsReading.parts (h : t.IsReading) :
    t.toMoment.date.year.toNat < 10 ^ 4 ∧ t.toMoment.date.month < 10 ^ 2 ∧
      t.toMoment.date.day < 10 ^ 2 ∧ t.toMoment.hour < 10 ^ 2 ∧ t.toMoment.minute < 10 ^ 2 ∧
        t.toMoment.second < 10 ^ 2 ∧ t.toMoment.nanos / 1000 < 10 ^ 6 := by
  have hmonth := Date.month_ofDays (t.seconds / 86400)
  have hday := Date.day_ofDays (t.seconds / 86400)
  obtain ⟨hnanos, hyear⟩ := h
  simp only [toMoment, nanosPerSecond] at hnanos hyear ⊢
  omega

theorem fileStamp_lt (h : t.IsReading) (h' : t'.IsReading) (hlt : t.Earlier t')
    (rest rest' : List Char) : t.fileStamp ++ rest < t'.fileStamp ++ rest' := by
  obtain ⟨hyear, hmonth, hday, hhour, hminute, hsecond, hmicro⟩ := h.parts
  obtain ⟨hyear', hmonth', hday', hhour', hminute', hsecond', hmicro'⟩ := h'.parts
  rw [fileStamp_eq h, fileStamp_eq h']
  refine Decimal.padded_lt_padded hyear hyear' (by decide) ?_
  rcases toMoment_before h hlt with hdate | ⟨hdate, hclock⟩
  · have hnonneg := h.2.1
    rcases hdate with hlt | ⟨heq, hlt⟩
    · exact Or.inl (by omega)
    · refine Or.inr ⟨by rw [heq], Decimal.padded_lt_padded hmonth hmonth' (by decide)
        (hlt.imp_right (And.imp_right ?_))⟩
      intro hlt
      exact Decimal.padded_lt_padded hday hday' (by decide) (Or.inl hlt)
  · rw [hdate]
    refine Or.inr ⟨rfl, List.append_left_lt (List.append_left_lt (List.cons_lt_cons_iff.2
      (Or.inr ⟨rfl, ?_⟩)))⟩
    refine Decimal.padded_lt_padded hhour hhour' (by decide) (hclock.imp_right (And.imp_right ?_))
    intro hclock
    refine Decimal.padded_lt_padded hminute hminute' (by decide)
      (hclock.imp_right (And.imp_right ?_))
    intro hclock
    refine Decimal.padded_lt_padded hsecond hsecond' (by decide)
      (hclock.imp_right (And.imp_right ?_))
    intro hclock
    exact List.cons_lt_cons_iff.2 (Or.inr ⟨rfl,
      Decimal.padded_lt_padded hmicro hmicro' (by decide) (Or.inl hclock)⟩)

end Instant

end BuoyGateway.Time
