import BuoyGateway.Shell.Program
import BuoyGateway.Shell.Stream
import BuoyGateway.Shell.Utility.Shown

/-!
# What utilities have in common

A utility is a program that the machine came with. It is told how to run other programs, and ends
with an outcome. What it has to complain about begins with the name that it was called by. Options
may stand between other arguments, as letters or as words.
-/

namespace BuoyGateway.Shell

inductive Outcome
  | exited (code : Nat)
  | killed (signal : Nat)
  | refused (e : SystemError)
  deriving DecidableEq, Repr

abbrev Runner := String → List String → StateM Process Outcome

abbrev Utility := Runner → Call → StateM Process Outcome

namespace Utility

def exited (code : Nat) : StateM Process Outcome := pure (.exited code)

def complain (call : Call) (text : String) : StateM Process Unit :=
  modify (fun p => p.say 2 (call.name ++ ": " ++ text ++ "\n").toList)

def fail (call : Call) (text : String) (code : Nat) : StateM Process Outcome := do
  complain call text
  exited code

def misuse (call : Call) (text : String) (code : Nat) : StateM Process Outcome := do
  complain call text
  modify (fun p =>
    p.say 2 ("Try '" ++ call.name ++ " --help' for more information.\n").toList)
  exited code

/-- Writes a result, and ends with a code; with another one if it cannot be written. -/
def emit (call : Call) (text : List Char) (code : Nat) : StateM Process Outcome := do
  match (← get).write 1 text with
  | .ok p =>
    set p
    exited code
  | .error e => fail call ("write error: " ++ e.wording) 1

def put (text : List Char) : StateM Process Unit := modify (fun p => p.say 1 text)

def putError (text : String) : StateM Process Unit := modify (fun p => p.say 2 text.toList)

def numeral (n : Nat) : String := String.ofList (Decimal.digits n)

/-! ### Options -/

inductive Taking
  | nothing
  | argument
  | attached
  deriving DecidableEq, Repr

/-- An option: its letter, its word, and what it takes. Options without a letter of their own have
an upper case letter here that no option has. -/
structure Flag where
  letter : Char
  word : String := ""
  taking : Taking := .nothing
  isShort : Bool := true

def plainFlags (letters : String) : List Flag := letters.toList.map (fun c => { letter := c })

def fullFlags (letters : String) : List Flag :=
  letters.toList.map (fun c => { letter := c, taking := .argument })

/-- The options among some arguments, each with its own argument, and the other arguments. Where
options are not `mixed` with other arguments, the first of those ends the options. -/
def options (flags : List Flag) (mixed : Bool) : List (Char × String) → List String →
    List String → Except String (List (Char × String) × List String)
  | found, others, [] => .ok (found.reverse, others.reverse)
  | found, others, word :: rest =>
    match word.toList with
    | ['-', '-'] => .ok (found.reverse, others.reverse ++ rest)
    | '-' :: '-' :: s =>
      let name := s.takeWhile (fun c => c != '=')
      let value := if name.length < s.length then some (s.drop (name.length + 1)) else none
      let shown := "'--" ++ String.ofList name ++ "'"
      let candidates := flags.filter (fun f => f.word != "" && name.isPrefixOf f.word.toList)
      let exact := candidates.filter (fun f => f.word.toList = name)
      match if exact.isEmpty then candidates else exact with
      | [] => .error ("unrecognized option " ++ shown)
      | [f] =>
        let shown := "'--" ++ f.word ++ "'"
        match f.taking, value with
        | .nothing, none | .attached, none =>
          options flags mixed ((f.letter, "") :: found) others rest
        | .nothing, some _ => .error ("option " ++ shown ++ " doesn't allow an argument")
        | _, some v => options flags mixed ((f.letter, String.ofList v) :: found) others rest
        | .argument, none =>
          match rest with
          | v :: rest => options flags mixed ((f.letter, v) :: found) others rest
          | [] => .error ("option " ++ shown ++ " requires an argument")
      | several => .error ("option " ++ shown ++ " is ambiguous; possibilities:" ++
          String.join (several.map (fun f => " '--" ++ f.word ++ "'")))
    | '-' :: c :: s =>
      let rec cluster : List (Char × String) → List Char →
          Except String (List (Char × String) × Option Char)
        | found, [] => .ok (found, none)
        | found, c :: s =>
          match flags.find? (fun f => f.isShort && f.letter = c) with
          | none => .error ("invalid option -- '" ++ String.singleton c ++ "'")
          | some f =>
            match f.taking with
            | .nothing => cluster ((c, "") :: found) s
            | .attached => .ok ((c, String.ofList s) :: found, none)
            | .argument =>
              if s.isEmpty then .ok (found, some c)
              else .ok ((c, String.ofList s) :: found, none)
      match cluster found (c :: s) with
      | .error e => .error e
      | .ok (found, none) => options flags mixed found others rest
      | .ok (found, some c) =>
        match rest with
        | v :: rest => options flags mixed ((c, v) :: found) others rest
        | [] => .error ("option requires an argument -- '" ++ String.singleton c ++ "'")
    | _ =>
      if mixed then options flags mixed found (word :: others) rest
      else .ok (found.reverse, others.reverse ++ word :: rest)

structure Given where
  flags : List (Char × String)
  others : List String

def Given.has (g : Given) (c : Char) : Bool := g.flags.any (fun f => f.1 = c)

def Given.hasAny (g : Given) (letters : String) : Bool :=
  g.flags.any (fun f => letters.contains f.1)

def Given.value? (g : Given) (c : Char) : Option String :=
  (g.flags.reverse.find? (fun f => f.1 = c)).map Prod.snd

def Given.values (g : Given) (c : Char) : List String :=
  (g.flags.filter (fun f => f.1 = c)).map Prod.snd

def Given.last? (g : Given) (letters : String) : Option Char :=
  (g.flags.reverse.find? (fun f => letters.contains f.1)).map Prod.fst

/-- Does something with the options and the other arguments; `code` is for a bad option. -/
def withFlags (call : Call) (flags : List Flag) (mixed : Bool) (code : Nat)
    (f : Given → StateM Process Outcome) : StateM Process Outcome :=
  match options flags mixed [] [] call.arguments with
  | .ok (found, others) => f ⟨found, others⟩
  | .error e => misuse call e code

/-! ### Numbers -/

def nat? (s : String) : Option Nat :=
  if s != "" && s.toList.all Char.isDigit then some (Decimal.ofDigits s.toList) else none

/-- The number of octets or lines that a text spells, with a letter for a multiple. -/
def size? (s : String) : Option Nat :=
  let digits := s.toList.takeWhile Char.isDigit
  let n := Decimal.ofDigits digits
  if digits.isEmpty then none
  else
    match String.ofList (s.toList.drop digits.length) with
    | "" => some n
    | "b" => some (512 * n)
    | "kB" => some (1000 * n)
    | "k" | "K" | "KiB" => some (1024 * n)
    | "MB" => some (1000000 * n)
    | "M" | "MiB" => some (1048576 * n)
    | "GB" => some (1000000000 * n)
    | "G" | "GiB" => some (1073741824 * n)
    | _ => none

/-! ### Files -/

def spare : Nat := 1000

/-- The text of a file, or of what can be read where the path is a dash. -/
def readFile (path : String) : StateM Process (Except SystemError (List Char)) := do
  let p ← get
  let result : Except SystemError (List Char × Process) :=
    if path = "-" then p.readAll 0
    else
      match p.openPath .reading path with
      | .error e => .error e
      | .ok (.inl stream, q) => (q.connect spare (some stream)).readAll spare
      | .ok (.inr stream, q) =>
        let (n, q) := q.addStream stream
        ((q.connect spare (some n)).readAll spare).map (fun (text, q) => (text, q.dropStream n))
  match result with
  | .ok (text, q) =>
    set (q.connect spare none)
    pure (.ok text)
  | .error e => pure (.error e)

def writeFile (path : String) (appending : Bool) (text : List Char) :
    StateM Process (Except SystemError Unit) := do
  let p ← get
  match p.openPath (if appending then .appending else .replacing) path with
  | .error e => pure (.error e)
  | .ok (.inl stream, q) =>
    match (q.connect spare (some stream)).write spare text with
    | .ok q =>
      set (q.connect spare none)
      pure (.ok ())
    | .error e => pure (.error e)
  | .ok (.inr stream, q) =>
    let (n, q) := q.addStream stream
    match (q.connect spare (some n)).write spare text with
    | .ok q =>
      set ((q.connect spare none).dropStream n)
      pure (.ok ())
    | .error e => pure (.error e)

/-- The texts of files one after the other; each that cannot be read is complained about with
`fault`, and then the second part of the result is false. -/
def readAll (paths : List String) (fault : String → SystemError → StateM Process Unit) :
    StateM Process (List (String × List Char) × Bool) := do
  let step (acc : List (String × List Char) × Bool) (path : String) :
      StateM Process (List (String × List Char) × Bool) := do
    match ← readFile path with
    | .ok text => pure ((path, text) :: acc.1, acc.2)
    | .error e =>
      fault path e
      pure (acc.1, false)
  let (texts, isWhole) ← paths.foldlM step ([], true)
  pure (texts.reverse, isWhole)

def fileFault (call : Call) (path : String) (e : SystemError) : StateM Process Unit :=
  complain call (showName path ++ ": " ++ e.wording)

/-- Writes what becomes of the text of each file, and in the end something more. Files that cannot
be read are complained about with `fault` when it is their turn. -/
def eachFile {σ : Type} (call : Call) (paths : List String)
    (fault : String → SystemError → StateM Process Unit) (start : σ)
    (f : List Char → σ → List Char × σ) (last : σ → List Char) : StateM Process Outcome := do
  let write (code : Nat) (text : List Char) (s : σ) (unwritten : Option SystemError) :
      StateM Process (Nat × σ × Option SystemError) := do
    if text.isEmpty || unwritten.isSome then pure (code, s, unwritten)
    else
      match (← get).write 1 text with
      | .ok p =>
        set p
        pure (code, s, none)
      | .error e => pure (code, s, some e)
  let step (acc : Nat × σ × Option SystemError) (path : String) :
      StateM Process (Nat × σ × Option SystemError) := do
    match ← readFile path with
    | .ok text =>
      let (out, s) := f text acc.2.1
      write acc.1 out s acc.2.2
    | .error e =>
      fault path e
      pure (1, acc.2)
  let (code, s, unwritten) ← paths.foldlM step (0, start, none)
  match ← write code (last s) s unwritten with
  | (code, _, none) => exited code
  | (_, _, some e) => fail call ("write error: " ++ e.wording) 1

def mapFiles (call : Call) (paths : List String) (f : List Char → List Char) :
    StateM Process Outcome :=
  eachFile call paths (fileFault call) () (fun text _ => (f text, ())) (fun _ => [])

def orInput (paths : List String) : List String := if paths.isEmpty then ["-"] else paths

/-! ### Lines -/

/-- The lines of a text, each with its end if it has one; `stop` is what ends lines. -/
def rowsBy (stop : Char) (s : List Char) : List (List Char) :=
  let (done, open') := s.foldl
    (fun (acc : List (List Char) × List Char) c =>
      if c = stop then ((c :: acc.2).reverse :: acc.1, []) else (acc.1, c :: acc.2))
    ([], [])
  (if open'.isEmpty then done else open'.reverse :: done).reverse

def rows (s : List Char) : List (List Char) := rowsBy '\n' s

def trimmed (row : List Char) : List Char :=
  match row.reverse with
  | '\n' :: rest => rest.reverse
  | _ => row

def lines (s : List Char) : List (List Char) := (rows s).map trimmed

def unlines (ls : List (List Char)) : List Char := ls.flatMap (fun l => l ++ ['\n'])

def compareTexts : List Char → List Char → Ordering
  | [], [] => .eq
  | [], _ => .lt
  | _, [] => .gt
  | c :: s, d :: t => if c < d then .lt else if d < c then .gt else compareTexts s t

def partsBy (isSeparator : Char → Bool) (s : List Char) : List (List Char) :=
  let (done, open') := s.foldl
    (fun (acc : List (List Char) × List Char) c =>
      if isSeparator c then (acc.2.reverse :: acc.1, []) else (acc.1, c :: acc.2))
    ([], [])
  (open'.reverse :: done).reverse

def words (s : List Char) : List (List Char) :=
  (partsBy Char.isWhitespace s).filter (fun w => !w.isEmpty)

end Utility

end BuoyGateway.Shell
