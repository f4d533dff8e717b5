import BuoyGateway.Shell.Utility.Saying
import BuoyGateway.Time.Instant

/-!
# Utilities about the machine

They tell the time, who uses the machine, and what it is. All is done by one user, for whom nothing
is forbidden.
-/

namespace BuoyGateway.Shell.Utility

/-! ### Users and names -/

def line (text : String) : Utility := fun _ call =>
  withFlags call [] true 1 (fun given =>
    match given.others with
    | [] => emit call (text ++ "\n").toList 0
    | extra :: _ => misuse call ("extra operand " ++ quote extra) 1)

def id : Utility := fun _ call =>
  withFlags call
    [{ letter := 'u', word := "user" }, { letter := 'g', word := "group" },
     { letter := 'G', word := "groups" }, { letter := 'n', word := "name" },
     { letter := 'r', word := "real" }] true 1
    (fun given =>
      match given.others.find? (fun user => user != "root" && user != "0") with
      | some user => fail call (quote user ++ ": no such user") 1
      | none =>
        let text :=
          if given.hasAny "ugG" then if given.has 'n' then "root" else "0"
          else "uid=0(root) gid=0(root) groups=0(root)"
        emit call (text ++ "\n").toList 0)

def uname : Utility := fun _ call =>
  withFlags call
    [{ letter := 'a', word := "all" }, { letter := 's', word := "kernel-name" },
     { letter := 'n', word := "nodename" }, { letter := 'r', word := "kernel-release" },
     { letter := 'v', word := "kernel-version" }, { letter := 'm', word := "machine" },
     { letter := 'p', word := "processor" }, { letter := 'i', word := "hardware-platform" },
     { letter := 'o', word := "operating-system" }] true 1
    (fun given =>
      let parts := [('s', "Linux"), ('n', "buoy"), ('r', "6.1.0"), ('v', "#1 SMP"),
        ('m', "x86_64"), ('p', "unknown"), ('i', "unknown"), ('o', "GNU/Linux")]
      let wanted (c : Char) : Bool :=
        given.has c || (given.has 'a' && c != 'p' && c != 'i') || (c = 's' && given.flags.isEmpty)
      match given.others with
      | [] =>
        let words := (parts.filter (fun p => wanted p.1)).map Prod.snd
        emit call (String.intercalate " " words ++ "\n").toList 0
      | extra :: _ => misuse call ("extra operand " ++ quote extra) 1)

def tty : Utility := fun _ call =>
  withFlags call
    [{ letter := 's', word := "silent" },
     { letter := 'q', word := "quiet", isShort := false }] true 2
    (fun given =>
      if given.hasAny "sq" then exited 1 else emit call "not a tty\n".toList 1)

def logname : Utility := fun _ call => fail call "no login name" 1

/-! ### Dates -/

def dayNames : List String :=
  ["Sunday", "Monday", "Tuesday", "Wednesday", "Thursday", "Friday", "Saturday"]

def monthNames : List String :=
  ["January", "February", "March", "April", "May", "June", "July", "August", "September",
   "October", "November", "December"]

def weekday (date : Time.Date) : Nat := ((date.toDays + 4) % 7).toNat

def dayOfYear (date : Time.Date) : Nat :=
  (date.toDays - Time.Date.toDays ⟨date.year, 1, 1⟩).toNat

/-- The year that the week of a date belongs to, which is the one of its Thursday, and the number of
the week in it. -/
def isoWeek (date : Time.Date) : Int × Nat :=
  let thursday := Time.Date.ofDays (date.toDays - ((weekday date + 6) % 7 : Nat) + 3)
  (thursday.year, dayOfYear thursday / 7 + 1)

def dateText (t : Time.Instant) : Nat → List Char → List Char
  | 0, _ | _, [] => []
  | fuel + 1, '%' :: s =>
    let m := t.toMoment
    let two (n : Nat) : List Char := Decimal.padded 2 n
    let blank (n : Nat) : List Char := (Decimal.digits n).leftpad 2 ' '
    let hour := if m.hour % 12 = 0 then 12 else m.hour % 12
    let year := Decimal.padded 4 m.date.year.toNat
    let day := dayNames.getD (weekday m.date) ""
    let month := monthNames.getD (m.date.month - 1) ""
    let short (s : String) : List Char := s.toList.take 3
    let sub (format : String) (rest : List Char) : List Char :=
      dateText t fuel (format.toList ++ rest)
    match s with
    | [] => ['%']
    | ':' :: 'z' :: rest => "+00:00".toList ++ dateText t fuel rest
    | '-' :: c :: rest =>
      let text := dateText t fuel ['%', c]
      (match text.dropWhile (fun d => d = '0' || d = ' ') with
        | [] => ['0']
        | text => text) ++ dateText t fuel rest
    | c :: rest =>
      let known : Option (List Char) := match c with
        | '%' => some ['%']
        | 'n' => some ['\n']
        | 't' => some ['\t']
        | 'Y' => some year
        | 'C' => some (year.take 2)
        | 'y' => some (year.drop 2)
        | 'm' => some (two m.date.month)
        | 'd' => some (two m.date.day)
        | 'e' => some (blank m.date.day)
        | 'H' => some (two m.hour)
        | 'k' => some (blank m.hour)
        | 'I' => some (two hour)
        | 'l' => some (blank hour)
        | 'M' => some (two m.minute)
        | 'S' => some (two m.second)
        | 'N' => some (Decimal.padded 9 m.nanos)
        | 's' => some (Decimal.signed t.seconds)
        | 'p' => some (if m.hour < 12 then "AM" else "PM").toList
        | 'P' => some (if m.hour < 12 then "am" else "pm").toList
        | 'a' => some (short day)
        | 'A' => some day.toList
        | 'b' | 'h' => some (short month)
        | 'B' => some month.toList
        | 'j' => some (Decimal.padded 3 (dayOfYear m.date + 1))
        | 'u' => some (Decimal.digits (if weekday m.date = 0 then 7 else weekday m.date))
        | 'w' => some (Decimal.digits (weekday m.date))
        | 'q' => some (Decimal.digits ((m.date.month + 2) / 3))
        | 'U' => some (two ((dayOfYear m.date + 7 - weekday m.date) / 7))
        | 'W' => some (two ((dayOfYear m.date + 7 - (weekday m.date + 6) % 7) / 7))
        | 'V' => some (two (isoWeek m.date).2)
        | 'G' => some (Decimal.padded 4 (isoWeek m.date).1.toNat)
        | 'g' => some (two ((isoWeek m.date).1 % 100).toNat)
        | 'Z' => some "UTC".toList
        | 'z' => some "+0000".toList
        | _ => none
      match known with
      | some text => text ++ dateText t fuel rest
      | none =>
        match c with
        | 'F' => sub "%Y-%m-%d" rest
        | 'T' | 'X' => sub "%H:%M:%S" rest
        | 'R' => sub "%H:%M" rest
        | 'D' | 'x' => sub "%m/%d/%y" rest
        | 'r' => sub "%I:%M:%S %p" rest
        | 'c' => sub "%a %b %e %H:%M:%S %Y" rest
        | c => '%' :: c :: dateText t fuel rest
  | fuel + 1, c :: s => c :: dateText t fuel s

/-- The instant that a text describes: seconds after an at sign, or a date and a time of the day. -/
def instant? (now : Time.Instant) (s : String) : Option Time.Instant :=
  let digits (s : List Char) : Option Nat :=
    if !s.isEmpty && s.all Char.isDigit then some (Decimal.ofDigits s) else none
  let dateOf (s : List Char) : Option Time.Date :=
    match partsBy (fun c => c = '-') s with
    | [y, m, d] =>
      match digits y, digits m, digits d with
      | some y, some m, some d =>
        let date : Time.Date := ⟨y, m, d⟩
        if date.isValid then some date else none
      | _, _, _ => none
    | _ => none
  let timeOf (s : List Char) : Option Nat :=
    match (partsBy (fun c => c = ':') s).map digits with
    | [some h, some m] => if h < 24 && m < 60 then some (3600 * h + 60 * m) else none
    | [some h, some m, some s] =>
      if h < 24 && m < 60 && s < 60 then some (3600 * h + 60 * m + s) else none
    | _ => none
  match s.toList with
  | '@' :: rest => (decimal? rest).map (fun d =>
      let nanos : Int := d.value * 1000000000 / (Nat.pow 10 d.places : Nat)
      ⟨nanos / 1000000000, (nanos % 1000000000).toNat⟩)
  | chars =>
    let chars := chars.map (fun c => if c = 'T' then ' ' else c)
    let chars := if chars.getLast? = some 'Z' then chars.dropLast else chars
    let day := 86400 * (now.seconds / 86400)
    match (words chars).filter (fun w => w != "UTC".toList) with
    | [] => some ⟨day, 0⟩
    | [w] =>
      match String.ofList w with
      | "now" | "today" => some now
      | "yesterday" => some { now with seconds := now.seconds - 86400 }
      | "tomorrow" => some { now with seconds := now.seconds + 86400 }
      | _ =>
        match dateOf w, timeOf w with
        | some d, _ => some ⟨86400 * d.toDays, 0⟩
        | none, some t => some ⟨day + t, 0⟩
        | none, none => none
    | [d, t] =>
      match dateOf d, timeOf t with
      | some d, some t => some ⟨86400 * d.toDays + t, 0⟩
      | _, _ => none
    | _ => none

def date : Utility := fun _ call =>
  withFlags call
    [{ letter := 'u', word := "utc" }, { letter := 'd', word := "date", taking := .argument },
     { letter := 'R', word := "rfc-email" },
     { letter := 'I', word := "iso-8601", taking := .attached },
     { letter := 'Q', word := "rfc-3339", taking := .argument, isShort := false },
     { letter := 'r', word := "reference", taking := .argument }] true 1
    (fun given => do
      let p ← get
      let micros := p.disk.now.nanos + 1000 * p.clock
      let now : Time.Instant :=
        ⟨p.disk.now.seconds + micros / 1000000000, micros % 1000000000⟩
      let described := given.value? 'd'
      match match described with
          | some s => instant? now s
          | none =>
            match given.value? 'r' with
            | some path => (p.node? path).map Node.modified
            | none => some now with
      | none => fail call ("invalid date " ++ quote (described.getD "")) 1
      | some t =>
        let write (format : String) : StateM Process Outcome :=
          emit call (dateText t (4 * format.length + 100) format.toList ++ ['\n']) 0
        match given.others with
        | [] =>
          if given.has 'R' then write "%a, %d %b %Y %H:%M:%S %z"
          else
            match given.value? 'I', given.value? 'Q' with
            | some "hours", _ => write "%Y-%m-%dT%H%:z"
            | some "minutes", _ => write "%Y-%m-%dT%H:%M%:z"
            | some "seconds", _ => write "%Y-%m-%dT%H:%M:%S%:z"
            | some "ns", _ => write "%Y-%m-%dT%H:%M:%S,%N%:z"
            | some _, _ => write "%Y-%m-%d"
            | none, some "seconds" => write "%Y-%m-%d %H:%M:%S%:z"
            | none, some "ns" => write "%Y-%m-%d %H:%M:%S.%N%:z"
            | none, some _ => write "%Y-%m-%d"
            | none, none => write "%a %b %e %H:%M:%S %Z %Y"
        | a :: rest =>
          match a.toList, rest with
          | '+' :: format, [] => write (String.ofList format)
          | '+' :: _, extra :: _ => misuse call ("extra operand " ++ quote extra) 1
          | _, _ => fail call ("invalid date " ++ quote a) 1)

end BuoyGateway.Shell.Utility
