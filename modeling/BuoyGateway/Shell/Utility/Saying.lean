import BuoyGateway.Shell.Condition
import BuoyGateway.Shell.Format
import BuoyGateway.Shell.Utility.Basic

/-!
# Utilities that say something

They write what their arguments tell them, count, wait, or only end with a code.
-/

namespace BuoyGateway.Shell.Utility

def constant (code : Nat) : Utility := fun _ _ => exited code

/-! ### Texts -/

def echoEscapes : Format.Escapes := { zeroFirst := true, hexadecimal := true }

def echo : Utility := fun _ call =>
  let isFlag (a : String) : Bool :=
    match a.toList with
    | '-' :: letters@(_ :: _) => letters.all (fun c => c ∈ ['n', 'e', 'E'])
    | _ => false
  let flags := call.arguments.takeWhile isFlag
  let letters := flags.flatMap (fun a => a.toList.drop 1)
  let others := call.arguments.drop flags.length
  let escaped := (letters.filter (fun c => c != 'n')).getLast? = some 'e'
  let text := List.intercalate [' '] (others.map String.toList)
  let (text, stop) := if escaped then echoEscapes.text text else (text, false)
  emit call (if letters.contains 'n' || stop then text else text ++ ['\n']) 0

def printf : Utility := fun _ call => do
  let arguments := if call.arguments.head? = some "--" then call.arguments.drop 1
    else call.arguments
  match arguments with
  | [] => misuse call "missing operand" 1
  | format :: arguments =>
    let written := Format.printf Format.ofUtility format.toList (arguments.map String.toList)
    let text := written.reversed.reverse
    for fault in written.faults.reverse do
      complain call fault
    match written.breach with
    | some (.directive d) =>
      put text
      fail call (d ++ ": invalid conversion specification") 1
    | some .unfinished =>
      put text
      fail call "%: invalid conversion specification" 1
    | none =>
      if !written.stopped && !written.arguments.isEmpty then
        put text
        fail call ("warning: ignoring excess arguments, starting with " ++
          quote (String.ofList (written.arguments.headD []))) 0
      else emit call text (if written.faults.isEmpty then 0 else 1)

def yes : Utility := fun _ call => do
  let words := if call.arguments.isEmpty then ["y"] else call.arguments
  let line := (String.intercalate " " words ++ "\n").toList
  put (List.replicate (Process.endlessRead / line.length + 1) line).flatten
  pure (.killed Signal.brokenPipe)

/-! ### Conditions -/

def test : Utility := fun _ call => do
  match Condition.holds (← get) call.arguments with
  | .ok b => exited (if b then 0 else 1)
  | .error e =>
    let illegal := "Illegal number: "
    if e.startsWith illegal then
      fail call ("invalid integer " ++ quote (String.ofList (e.toList.drop illegal.length))) 2
    else fail call e 2

def bracket : Utility := fun run call =>
  match call.arguments.reverse with
  | "]" :: words => test run { call with arguments := words.reverse }
  | _ => fail call "missing ']'" 2

/-! ### Numbers -/

/-- A decimal: its digits as a whole number, and how many of them stand behind the point. -/
structure Scaled where
  value : Int
  places : Nat

def decimal? (s : List Char) : Option Scaled :=
  let (negative, s) := match s with
    | '-' :: rest => (true, rest)
    | '+' :: rest => (false, rest)
    | _ => (false, s)
  let whole := s.takeWhile Char.isDigit
  let s := s.drop whole.length
  let (fraction, s) := match s with
    | '.' :: rest =>
      let fraction := rest.takeWhile Char.isDigit
      (fraction, rest.drop fraction.length)
    | _ => ([], s)
  if whole.isEmpty && fraction.isEmpty then none
  else
    let n : Int := Decimal.ofDigits (whole ++ fraction)
    let n := if negative then -n else n
    match s with
    | [] => some ⟨n, fraction.length⟩
    | c :: rest =>
      let (down, digits) := match rest with
        | '-' :: digits => (true, digits)
        | '+' :: digits => (false, digits)
        | _ => (false, rest)
      if !(c = 'e' || c = 'E') || digits.isEmpty || !digits.all Char.isDigit then none
      else
        let e := min 400 (Decimal.ofDigits digits)
        if down then some ⟨n, fraction.length + e⟩
        else if e ≤ fraction.length then some ⟨n, fraction.length - e⟩
        else some ⟨n * Nat.pow 10 (e - fraction.length), 0⟩

def Scaled.units (d : Scaled) (places : Nat) : Int :=
  d.value * Nat.pow 10 (places - d.places)

def unitText (places : Nat) (n : Int) : List Char :=
  let digits := Decimal.padded (places + 1) n.natAbs
  let whole := digits.take (digits.length - places)
  (if n < 0 then ['-'] else []) ++
    (if places = 0 then whole else whole ++ '.' :: digits.drop whole.length)

def zeroFilled (width : Nat) (s : List Char) : List Char :=
  match s with
  | '-' :: digits => '-' :: digits.leftpad (width - 1) '0'
  | _ => s.leftpad width '0'

/-- A number of units as a format with one directive says; what is wrong with the format, if it has
another one. -/
def formatted (format : List Char) (places : Nat) (n : Int) : Except String (List Char) :=
  let front := format.takeWhile (fun c => c != '%')
  let directive := format.drop (front.length + 1)
  if front.length = format.length then
    .error ("format " ++ quote (String.ofList format) ++ " has no % directive")
  else
    let flags := directive.takeWhile (fun c => !c.isAlpha)
    match directive.drop flags.length with
    | c :: rest =>
      if c.toLower ∈ ['e', 'f', 'g'] then
        let text := String.ofList (unitText places n)
        let written := Format.printf Format.ofUtility ('%' :: flags ++ [c]) [text.toList]
        .ok (front ++ written.reversed.reverse ++ rest)
      else
        .error ("format " ++ quote (String.ofList format) ++ " has unknown %" ++
          String.singleton c ++ " directive")
    | [] => .error ("format " ++ quote (String.ofList format) ++ " ends in %")

def countLimit : Nat := 1000000

def countArguments : List (Char × String) → List String →
    Except String (List (Char × String) × List String)
  | found, [] => .ok (found, [])
  | found, a :: rest =>
    let isNumber := a.toList.head? = some '-' &&
      ((a.toList[1]?.map (fun c => c.isDigit || c = '.')).getD false)
    if isNumber || !a.startsWith "-" then .ok (found, a :: rest)
    else
      let flags : List Flag :=
        [{ letter := 'f', word := "format", taking := .argument },
         { letter := 's', word := "separator", taking := .argument },
         { letter := 'w', word := "equal-width" }]
      match options flags false [] [] [a] with
      | .ok (more, _) =>
        if a = "--" then .ok (found, rest) else countArguments (found ++ more) rest
      | .error e =>
        match rest with
        | value :: rest =>
          match options flags false [] [] [a, value] with
          | .ok (more, _) => countArguments (found ++ more) rest
          | .error e => .error e
        | [] => .error e

def seq : Utility := fun _ call =>
  match countArguments [] call.arguments with
  | .error e => misuse call e 1
  | .ok (found, operands) =>
    let given : Given := ⟨found, operands⟩
    match operands with
    | [] => misuse call "missing operand" 1
    | _ :: _ :: _ :: extra :: _ => misuse call ("extra operand " ++ quote extra) 1
    | operands =>
      match operands.find? (fun a => (decimal? a.toList).isNone) with
      | some a => misuse call ("invalid floating point argument: " ++ quote a) 1
      | none =>
        let one : Scaled := ⟨1, 0⟩
        let (first, step, last) := match operands.filterMap (fun a => decimal? a.toList) with
          | [last] => (one, one, last)
          | [first, last] => (first, one, last)
          | [first, step, last] => (first, step, last)
          | _ => (one, one, ⟨0, 0⟩)
        if step.value = 0 then
          misuse call ("invalid Zero increment value: " ++ quote (operands.getD 1 "")) 1
        else
          let scale := max first.places (max step.places last.places)
          let places := max first.places step.places
          let a := first.units scale
          let d := step.units scale
          let b := last.units scale
          let count := min countLimit ((b - a) / d + 1).toNat
          let count := if (0 < d && b < a) || (d < 0 && a < b) then 0 else count
          let values := (List.range count).map (fun (k : Nat) => a + d * k)
          let shorter (n : Int) : Int :=
            let unit := Nat.pow 10 (scale - places)
            n / unit
          let plain := values.map (fun n => unitText places (shorter n))
          let width := max (unitText places (shorter a)).length
            (match values.getLast? with
              | some n => max (unitText places (shorter n)).length
                  (unitText places (shorter b)).length
              | none => 0)
          let shown : Except String (List (List Char)) :=
            match given.value? 'f' with
            | some format => values.mapM (fun n => formatted format.toList scale n)
            | none => .ok (if given.has 'w' then plain.map (zeroFilled width) else plain)
          match shown with
          | .error e => fail call e 1
          | .ok [] => exited 0
          | .ok texts =>
            let separator := ((given.value? 's').getD "\n").toList
            emit call (List.intercalate separator texts ++ ['\n']) 0

/-! ### Time -/

def interval? (s : String) : Option Nat :=
  let (body, factor) := match s.toList.reverse with
    | 's' :: rest => (rest.reverse, 1)
    | 'm' :: rest => (rest.reverse, 60)
    | 'h' :: rest => (rest.reverse, 3600)
    | 'd' :: rest => (rest.reverse, 86400)
    | _ => (s.toList, 1)
  match decimal? body with
  | some d =>
    if d.value < 0 then none
    else some (d.value.toNat * factor * 1000000 / Nat.pow 10 d.places)
  | none => none

def badInterval (a : String) : String := "invalid time interval " ++ quote a

def sleep : Utility := fun _ call =>
  withFlags call [] true 1 (fun given => do
    if given.others.isEmpty then misuse call "missing operand" 1
    else
      match given.others.filter (fun a => (interval? a).isNone) with
      | [] =>
        modify (fun p => p.wait ((given.others.filterMap interval?).foldl (· + ·) 0))
        exited 0
      | a :: rest =>
        for b in (a :: rest).dropLast do
          complain call (badInterval b)
        misuse call (badInterval ((a :: rest).getLast?.getD a)) 1)

end BuoyGateway.Shell.Utility
