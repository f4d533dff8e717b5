import BuoyGateway.Time.Calendar
import BuoyGateway.Decimal.Numeral

/-!
# Instants and their stamps

A point in time, to the nanosecond, and the two stamps that the gateway puts on files and
messages: the one of the modem, whose year has two digits, and the one that begins the name of a
file in the outbox, which sorts by time.
-/

namespace BuoyGateway.Time

open Decimal (padded)

/-- A point in time: whole seconds since the first of January 1970, universal time, and
nanoseconds after that. A thousand million nanoseconds or more stand for a leap second. -/
structure Instant where
  seconds : Int
  nanos : Nat
  deriving DecidableEq, Repr

/-- A date and the time of the day, universal time. The second is 60 in a leap second. -/
structure Moment where
  date : Date
  hour : Nat
  minute : Nat
  second : Nat
  nanos : Nat
  deriving DecidableEq, Repr

namespace Instant

def nanosPerSecond : Nat := 1000000000

def ofSeconds (seconds : Int) : Instant := ⟨seconds, 0⟩

def toNanos (t : Instant) : Int := t.seconds * nanosPerSecond + t.nanos

def toMoment (t : Instant) : Moment :=
  let second := (t.seconds % 86400).toNat
  { date := Date.ofDays (t.seconds / 86400)
    hour := second / 3600
    minute := second / 60 % 60
    second := second % 60 + t.nanos / nanosPerSecond
    nanos := t.nanos % nanosPerSecond }

end Instant

/-- A year in four digits, with its sign when four digits do not show it. -/
def yearDigits (year : Int) : List Char :=
  if 0 ≤ year && year ≤ 9999 then padded 4 year.natAbs
  else (if year < 0 then '-' else '+') :: padded 4 year.natAbs

/-- The stamp of the modem, `yy/MM/dd,hh:mm:ss+00`. -/
def Instant.modemStamp (t : Instant) : String :=
  let m := t.toMoment
  String.ofList (padded 2 (m.date.year % 100).toNat ++ ['/'] ++ padded 2 m.date.month ++ ['/'] ++
    padded 2 m.date.day ++ [','] ++ padded 2 m.hour ++ [':'] ++ padded 2 m.minute ++ [':'] ++
    padded 2 m.second ++ "+00".toList)

/-- The stamp of a file name, `yyyyMMddThhmmss.` and microseconds. -/
def Instant.fileStamp (t : Instant) : List Char :=
  let m := t.toMoment
  yearDigits m.date.year ++ padded 2 m.date.month ++ padded 2 m.date.day ++ ['T'] ++
    padded 2 m.hour ++ padded 2 m.minute ++ padded 2 m.second ++ ['.'] ++
    padded 6 (m.nanos / 1000)

end BuoyGateway.Time
