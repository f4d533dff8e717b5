import BuoyGateway.Time.Instant
import BuoyGateway.Text.Blank
import BuoyGateway.Text.Clip

/-!
# Date and time text after RFC 3339

Instants are written in universal time, with as many groups of three digits after the point as
they need. The reader takes more than the writer gives: any offset, blanks around the parts, a
space or a small letter in place of `T` and `Z`, and the word `UTC` in place of an offset.
-/

namespace BuoyGateway.Time

open Decimal (padded)

inductive TimeError
  /-- A part is beyond its range, or there is no such day. -/
  | outOfRange
  /-- A character is not the one expected. -/
  | invalid
  /-- The text ends before the time does. -/
  | tooShort
  /-- The text goes on after the time. -/
  | tooLong
  /-- The offset leads beyond the calendar. -/
  | impossible
  deriving DecidableEq, Repr

def TimeError.message : TimeError → String
  | .outOfRange => "input is out of range"
  | .invalid => "input contains invalid characters"
  | .tooShort => "premature end of input"
  | .tooLong => "trailing input"
  | .impossible => "no possible date and time matching input"

namespace Rfc3339

/-- A number of at least one digit, and at most `width` of them if a width is given. -/
def number (width : Option Nat) (s : List Char) : Except TimeError (Nat × List Char) :=
  match s with
  | [] => .error .tooShort
  | c :: _ =>
    if c.isDigit then
      let run := s.takeWhile Char.isDigit
      let run := match width with
        | some width => run.take width
        | none => run
      .ok (Decimal.ofDigits run, s.drop run.length)
    else .error .invalid

/-- A number of two digits at most after blanks, between two bounds. -/
def field (low high : Nat) (s : List Char) : Except TimeError (Nat × List Char) := do
  let (n, s) ← number (some 2) (Text.skipBlanks s)
  if low ≤ n && n ≤ high then pure (n, s) else throw .outOfRange

def mark (c : Char) (s : List Char) : Except TimeError (List Char) :=
  match Text.skipBlanks s with
  | [] => .error .tooShort
  | d :: rest => if d = c then .ok rest else .error .invalid

/-- A year: four digits at most, or any number of digits after a sign. -/
def year (s : List Char) : Except TimeError (Int × List Char) := do
  let (negative, width, s) := match Text.skipBlanks s with
    | '-' :: rest => (true, none, rest)
    | '+' :: rest => (false, none, rest)
    | rest => (false, some 4, rest)
  let (n, s) ← number width s
  let year : Int := if negative then -n else n
  if -2147483648 ≤ year && year ≤ 2147483647 then pure (year, s) else throw .outOfRange

/-- The digits after the point, as nanoseconds. Digits after the ninth do not count. -/
def fraction (s : List Char) : Except TimeError (Nat × List Char) :=
  match s with
  | '.' :: rest => do
    let run := rest.takeWhile Char.isDigit
    let (n, _) ← number (some 9) rest
    pure (n * Nat.pow 10 (9 - min 9 run.length), rest.drop run.length)
  | _ => .ok (0, s)

def digitPair (s : List Char) : Except TimeError (Nat × List Char) :=
  match s with
  | a :: b :: rest =>
    if a.isDigit && b.isDigit then .ok (Decimal.ofDigits [a, b], rest) else .error .invalid
  | _ => if Text.octets s < 2 then .error .tooShort else .error .invalid

/-- Hours and minutes, in seconds. Colons and blanks may stand between them. -/
def hoursAndMinutes (s : List Char) : Except TimeError (Nat × List Char) := do
  let (hours, s) ← digitPair s
  let (minutes, s) ← digitPair (s.dropWhile (fun c => c == ':' || Text.isBlank c))
  if minutes < 60 then pure (hours * 3600 + minutes * 60, s) else throw .outOfRange

def offset (s : List Char) : Except TimeError (Int × List Char) := do
  match s with
  | 'Z' :: rest => pure (0, rest)
  | 'z' :: rest => pure (0, rest)
  | '+' :: rest =>
    let (seconds, rest) ← hoursAndMinutes rest
    pure (seconds, rest)
  | '-' :: rest | '\u2212' :: rest =>
    let (seconds, rest) ← hoursAndMinutes rest
    pure (-seconds, rest)
  | [] => throw .tooShort
  | _ => throw .invalid

/-- The zone at the end: the word for universal time, or an offset. -/
def zone (s : List Char) : Except TimeError (Int × List Char) :=
  if (s.take 3).map Char.toUpper = ['U', 'T', 'C'] then .ok (0, s.drop 3) else offset s

def isYear (year : Int) : Bool := -262143 ≤ year && year ≤ 262142

/-- The instant of a date and a time of the day at an offset. The parts are in their ranges; what
is left to refuse is a day that its month does not have, and a time beyond the calendar. -/
def assemble (date : Date) (hour minute second nanos : Nat) (offset : Int) :
    Except TimeError Instant :=
  if !isYear date.year || !date.isValid || offset.natAbs ≥ 86400 then .error .outOfRange else
    let leap := second / 60
    let inDay := hour * 3600 + minute * 60 + (second - leap)
    let seconds := date.toDays * 86400 + inDay - offset
    if isYear (Date.ofDays (seconds / 86400)).year then
      .ok ⟨seconds, nanos + leap * Instant.nanosPerSecond⟩
    else .error .impossible

def parse (s : List Char) : Except TimeError Instant := do
  let (year, s) ← year s
  let s ← mark '-' s
  let (month, s) ← field 1 12 s
  let s ← mark '-' s
  let (day, s) ← field 1 31 s
  let s ← match s with
    | [] => throw .tooShort
    | c :: rest => if c = 'T' || c = 't' || c = ' ' then pure rest else throw .invalid
  let (hour, s) ← field 0 23 s
  let s ← mark ':' s
  let (minute, s) ← field 0 59 s
  let s ← mark ':' s
  let (second, s) ← field 0 60 s
  let (nanos, s) ← fraction s
  let (offset, s) ← zone (Text.skipBlanks s)
  match Text.skipBlanks s with
  | [] => assemble ⟨year, month, day⟩ hour minute second nanos offset
  | _ => throw .tooLong

/-- The digits after the point that nanoseconds need: none, three, six or nine. -/
def writeFraction (nanos : Nat) : List Char :=
  if nanos = 0 then []
  else if nanos % 1000000 = 0 then '.' :: padded 3 (nanos / 1000000)
  else if nanos % 1000 = 0 then '.' :: padded 6 (nanos / 1000)
  else '.' :: padded 9 nanos

def write (t : Instant) : List Char :=
  let m := t.toMoment
  yearDigits m.date.year ++ ['-'] ++ padded 2 m.date.month ++ ['-'] ++ padded 2 m.date.day ++
    ['T'] ++ padded 2 m.hour ++ [':'] ++ padded 2 m.minute ++ [':'] ++ padded 2 m.second ++
    writeFraction m.nanos ++ ['Z']

end Rfc3339

end BuoyGateway.Time
