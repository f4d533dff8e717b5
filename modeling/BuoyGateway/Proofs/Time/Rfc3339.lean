import BuoyGateway.Proofs.Decimal.Numeral
import BuoyGateway.Proofs.Text.Run
import BuoyGateway.Proofs.Time.Calendar
import BuoyGateway.Time.Rfc3339

/-!
# Written instants are read back

The parts of a written instant are numbers of fixed widths with marks between them, so each is read
up to its mark. What the writer gives are a date of the calendar and a time of the day, and the two
lead back to the instant.
-/

namespace BuoyGateway.Time

open Decimal (padded ofDigits)

/-- A reading of a clock in a year of four digits: an instant within a second, or in the leap second
at the end of a minute. -/
def Instant.IsReading (t : Instant) : Prop :=
  (t.nanos < nanosPerSecond ∨ t.nanos < 2 * nanosPerSecond ∧ t.seconds % 60 = 59) ∧
    0 ≤ t.toMoment.date.year ∧ t.toMoment.date.year ≤ 9999

instance (t : Instant) : Decidable t.IsReading := inferInstanceAs (Decidable (_ ∧ _))

namespace Rfc3339

/-! ### Numbers and marks -/

theorem isBlank_of_isDigit {c : Char} (h : c.isDigit = true) : Text.isBlank c = false := by
  simp only [Char.isDigit, Bool.and_eq_true, decide_eq_true_eq, UInt32.le_iff_toNat_le] at h
  have hn : 48 ≤ c.toNat ∧ c.toNat ≤ 57 := h
  simp only [Text.isBlank, Bool.or_eq_false_iff, Bool.and_eq_false_iff, decide_eq_false_iff_not,
    beq_eq_false_iff_ne]
  omega

theorem skipBlanks_cons {c : Char} (h : Text.isBlank c = false) (s : List Char) :
    Text.skipBlanks (c :: s) = c :: s := by
  rw [Text.skipBlanks, List.dropWhile_cons, if_neg (by rw [h]; decide)]

def EndsNumber (s : List Char) : Prop := ∀ c ∈ s.head?, c.isDigit = false

theorem padded_eq_cons (width n : Nat) (hw : 0 < width) :
    ∃ c run, padded width n = c :: run ∧ c.isDigit = true := by
  cases h : padded width n with
  | nil =>
    have hlen := congrArg List.length h
    rw [padded, List.leftpad, List.length_append, List.length_replicate, List.length_nil] at hlen
    omega
  | cons c run =>
    exact ⟨c, run, rfl, Decimal.isDigit_of_mem_padded (h ▸ List.mem_cons_self)⟩

theorem number_padded {most width n : Nat} {rest : List Char} (hw : 0 < width)
    (hn : n < Nat.pow 10 width) (hmost : width ≤ most) (hrest : EndsNumber rest) :
    number (some most) (padded width n ++ rest) = .ok (n, rest) := by
  obtain ⟨c, run, hrun, hc⟩ := padded_eq_cons width n hw
  have hlen := Decimal.length_padded hw hn
  have htake : (padded width n ++ rest).takeWhile Char.isDigit = padded width n :=
    Text.takeWhile_run (fun _ h => Decimal.isDigit_of_mem_padded h) hrest
  have hvalue := Decimal.ofDigits_padded width n
  rw [hrun] at hlen htake hvalue ⊢
  simp only [number, List.cons_append, hc, if_true] at htake ⊢
  rw [htake, List.take_of_length_le (by omega), hvalue, ← List.cons_append, List.drop_left]

theorem skipBlanks_padded {width : Nat} (n : Nat) (hw : 0 < width) (rest : List Char) :
    Text.skipBlanks (padded width n ++ rest) = padded width n ++ rest := by
  obtain ⟨c, run, hrun, hc⟩ := padded_eq_cons width n hw
  rw [hrun, List.cons_append, skipBlanks_cons (isBlank_of_isDigit hc)]

theorem field_padded {low high n : Nat} {rest : List Char} (hl : low ≤ n) (hh : n ≤ high)
    (hn : n < 100) (hrest : EndsNumber rest) :
    field low high (padded 2 n ++ rest) = .ok (n, rest) := by
  have hin : (low ≤ n && n ≤ high) = true := by simp [hl, hh]
  simp only [field, skipBlanks_padded n (show 0 < 2 by decide),
    number_padded (show 0 < 2 by decide) hn (Nat.le_refl 2) hrest]
  exact if_pos hin

theorem mark_cons {c : Char} (h : Text.isBlank c = false) (rest : List Char) :
    mark c (c :: rest) = .ok rest := by
  simp only [mark, skipBlanks_cons h, if_true]

theorem year_padded {n : Nat} {rest : List Char} (hn : n < 10000) (hrest : EndsNumber rest) :
    year (padded 4 n ++ rest) = .ok ((n : Int), rest) := by
  have hnumber := number_padded (show 0 < 4 by decide) hn (Nat.le_refl 4) hrest
  have hin : (-2147483648 ≤ (n : Int) && (n : Int) ≤ 2147483647) = true := by
    rw [Bool.and_eq_true, decide_eq_true_eq, decide_eq_true_eq]
    omega
  have hplain : ∀ run, padded 4 n ++ rest ≠ '-' :: run ∧ padded 4 n ++ rest ≠ '+' :: run := by
    obtain ⟨c, tail, htail, hc⟩ := padded_eq_cons 4 n (by decide)
    rw [htail]
    intro run
    constructor <;>
    · intro h
      cases h
      cases hc
  unfold year
  rw [skipBlanks_padded n (show 0 < 4 by decide)]
  split
  next hsign =>
    split at hsign
    · next h => exact absurd h (hplain _).1
    · next h => exact absurd h (hplain _).2
    · cases hsign
      simp only [hnumber]
      exact if_pos hin

/-! ### Fractions -/

theorem fraction_padded {width n : Nat} {rest : List Char} (hw : 0 < width) (hwidth : width ≤ 9)
    (hn : n < Nat.pow 10 width) (hrest : EndsNumber rest) :
    fraction ('.' :: (padded width n ++ rest)) = .ok (n * Nat.pow 10 (9 - width), rest) := by
  have hrun : (padded width n ++ rest).takeWhile Char.isDigit = padded width n :=
    Text.takeWhile_run (fun _ h => Decimal.isDigit_of_mem_padded h) hrest
  have hlen := Decimal.length_padded hw hn
  have hdrop : (padded width n ++ rest).drop width = rest := by
    conv => lhs; arg 1; rw [← hlen]
    exact List.drop_left
  simp only [fraction, hrun, number_padded hw hn hwidth hrest, bind, Except.bind, hlen,
    Nat.min_eq_right hwidth, hdrop]
  rfl

theorem fraction_written {n : Nat} (hn : n < 1000000000) (rest : List Char) :
    fraction (writeFraction n ++ 'Z' :: rest) = .ok (n, 'Z' :: rest) := by
  have hrest : EndsNumber ('Z' :: rest) := by
    intro c hc
    cases hc
    decide
  unfold writeFraction
  split
  · next h => rw [h]; rfl
  split
  · have hn : n / 1000000 < 1000 := by omega
    rw [List.cons_append, fraction_padded (by decide) (by decide) hn hrest]
    congr 2
    change n / 1000000 * 1000000 = n
    omega
  split
  · have hn : n / 1000 < 1000000 := by omega
    rw [List.cons_append, fraction_padded (by decide) (by decide) hn hrest]
    congr 2
    change n / 1000 * 1000 = n
    omega
  · rw [List.cons_append, fraction_padded (by decide) (by decide) hn hrest]
    congr 2
    exact Nat.mul_one n

/-! ### Instants -/

theorem endsNumber_cons {c : Char} (h : c.isDigit = false) (rest : List Char) :
    EndsNumber (c :: rest) := by
  intro d hd
  cases hd
  exact h

/-- The parts of a text in the form of the writer are read one after the other. -/
theorem parse_parts {year month day hour minute second nanos : Nat} (hyear : year < 10000)
    (hmonth : 1 ≤ month ∧ month ≤ 12) (hday : 1 ≤ day ∧ day ≤ 31) (hhour : hour ≤ 23)
    (hminute : minute ≤ 59) (hsecond : second ≤ 60) (hnanos : nanos < 1000000000) :
    parse (padded 4 year ++ '-' :: (padded 2 month ++ '-' :: (padded 2 day ++ 'T' ::
      (padded 2 hour ++ ':' :: (padded 2 minute ++ ':' :: (padded 2 second ++
        (writeFraction nanos ++ ['Z']))))))) =
      assemble ⟨year, month, day⟩ hour minute second nanos 0 := by
  have hdash := endsNumber_cons (show '-'.isDigit = false by decide)
  have hcolon := endsNumber_cons (show ':'.isDigit = false by decide)
  have hT := endsNumber_cons (show 'T'.isDigit = false by decide)
  have hfraction : EndsNumber (writeFraction nanos ++ ['Z']) := by
    unfold writeFraction
    split
    · exact endsNumber_cons (by decide) _
    split
    · exact endsNumber_cons (by decide) _
    split <;> exact endsNumber_cons (by decide) _
  simp only [parse, bind, Except.bind, year_padded hyear (hdash _),
    mark_cons (show Text.isBlank '-' = false by decide),
    mark_cons (show Text.isBlank ':' = false by decide),
    field_padded hmonth.1 hmonth.2 (by omega) (hdash _),
    field_padded hday.1 hday.2 (by omega) (hT _),
    field_padded (Nat.zero_le _) hhour (by omega) (hcolon _),
    field_padded (Nat.zero_le _) hminute (by omega) (hcolon _),
    field_padded (Nat.zero_le _) hsecond (by omega) hfraction,
    fraction_written hnanos, if_true, pure, Except.pure, decide_true, Bool.true_or]
  rfl

theorem assemble_toMoment {t : Instant} (h : t.IsReading) :
    assemble t.toMoment.date t.toMoment.hour t.toMoment.minute t.toMoment.second
      t.toMoment.nanos 0 = .ok t := by
  obtain ⟨seconds, nanos⟩ := t
  obtain ⟨hreading, hyear, hyear'⟩ := h
  have hvalid := Date.isValid_ofDays (seconds / 86400)
  simp only [Instant.toMoment, Instant.nanosPerSecond] at hreading hyear hyear' ⊢
  obtain ⟨second, hsecond⟩ : ∃ second, second = (seconds % 86400).toNat := ⟨_, rfl⟩
  have hisYear : isYear (Date.ofDays (seconds / 86400)).year = true := by
    rw [isYear, Bool.and_eq_true, decide_eq_true_eq, decide_eq_true_eq]
    omega
  have hleap : (second % 60 + nanos / 1000000000) / 60 = nanos / 1000000000 := by omega
  have hseconds : (Date.ofDays (seconds / 86400)).toDays * 86400 +
      (second / 3600 * 3600 + second / 60 % 60 * 60 +
        (second % 60 + nanos / 1000000000 - nanos / 1000000000) : Nat) - 0 = seconds := by
    rw [Date.toDays_ofDays]
    omega
  rw [← hsecond]
  simp only [assemble, hisYear, hvalid, Bool.not_true, Bool.false_or, hleap, hseconds, if_true,
    Instant.nanosPerSecond]
  rw [if_neg (by decide), Except.ok.injEq, Instant.mk.injEq]
  exact ⟨rfl, by omega⟩

theorem parse_write {t : Instant} (h : t.IsReading) : parse (write t) = .ok t := by
  have hyear := h.2
  obtain ⟨year, hy⟩ : ∃ year : Nat, t.toMoment.date.year = year :=
    ⟨t.toMoment.date.year.toNat, by omega⟩
  have hdigits : yearDigits t.toMoment.date.year = padded 4 year := by
    rw [yearDigits, if_pos (by simp [hyear]), hy]
    rfl
  have hassemble := assemble_toMoment h
  obtain ⟨hmonth, hday⟩ : (1 ≤ t.toMoment.date.month ∧ t.toMoment.date.month ≤ 12) ∧
      (1 ≤ t.toMoment.date.day ∧ t.toMoment.date.day ≤ 31) :=
    ⟨Date.month_ofDays _, Date.day_ofDays _⟩
  have hhour : t.toMoment.hour ≤ 23 := by
    simp only [Instant.toMoment]
    omega
  have hminute : t.toMoment.minute ≤ 59 := by
    simp only [Instant.toMoment]
    omega
  have hsecond : t.toMoment.second ≤ 60 := by
    have := h.1
    simp only [Instant.toMoment, Instant.nanosPerSecond] at this ⊢
    omega
  have hnanos : t.toMoment.nanos < 1000000000 := by
    simp only [Instant.toMoment, Instant.nanosPerSecond]
    omega
  have hparts := parse_parts (show year < 10000 by omega) hmonth hday hhour hminute hsecond hnanos
  rw [write, hdigits]
  simp only [List.append_assoc, List.cons_append, List.nil_append]
  rw [hparts, ← hy]
  exact hassemble

end Rfc3339

end BuoyGateway.Time
