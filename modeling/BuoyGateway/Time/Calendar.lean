/-!
# The proleptic Gregorian calendar

Dates and the number of days from the first of January 1970 to them. Years are integers; the year
before year one is year zero.
-/

namespace BuoyGateway.Time

structure Date where
  year : Int
  month : Nat
  day : Nat
  deriving DecidableEq, Repr

def isLeapYear (year : Int) : Bool :=
  year % 4 == 0 && (year % 100 != 0 || year % 400 == 0)

/-- The number of days in a month, zero where there is no such month. -/
def daysInMonth (year : Int) : Nat → Nat
  | 2 => if isLeapYear year then 29 else 28
  | 4 | 6 | 9 | 11 => 30
  | 1 | 3 | 5 | 7 | 8 | 10 | 12 => 31
  | _ => 0

namespace Date

def isValid (date : Date) : Bool := 1 ≤ date.day && date.day ≤ daysInMonth date.year date.month

/-- Days from the first of January 1970 to the date. Years are taken to begin in March, so that a
leap day is the last day of its year, and are counted within periods of 400 years. -/
def toDays (date : Date) : Int :=
  let year := if date.month ≤ 2 then date.year - 1 else date.year
  let period := year / 400
  let yearOfPeriod := year % 400
  let month : Int := (date.month + 9) % 12
  let dayOfYear := (153 * month + 2) / 5 + date.day - 1
  let dayOfPeriod := yearOfPeriod * 365 + yearOfPeriod / 4 - yearOfPeriod / 100 + dayOfYear
  period * 146097 + dayOfPeriod - 719468

/-- The date that lies so many days after the first of January 1970. -/
def ofDays (days : Int) : Date :=
  let days := days + 719468
  let period := days / 146097
  let dayOfPeriod := days % 146097
  let yearOfPeriod :=
    (dayOfPeriod - dayOfPeriod / 1460 + dayOfPeriod / 36524 - dayOfPeriod / 146096) / 365
  let dayOfYear := dayOfPeriod - (365 * yearOfPeriod + yearOfPeriod / 4 - yearOfPeriod / 100)
  let month := (5 * dayOfYear + 2) / 153
  let day := dayOfYear - (153 * month + 2) / 5 + 1
  let month := if month < 10 then month + 3 else month - 9
  let year := period * 400 + yearOfPeriod
  ⟨if month ≤ 2 then year + 1 else year, month.toNat, day.toNat⟩

end Date

end BuoyGateway.Time
