import BuoyGateway.Shell.Tree
import BuoyGateway.Shell.Utility.Basic

/-!
# Rights

Rights are twelve bits: three for each of the owner, the group and all others, and three special
ones. They are changed by a numeral or by clauses, each of which says for whom it is, and what it
adds, takes away or sets.
-/

namespace BuoyGateway.Shell.Utility

structure ModeChange where
  sign : Char
  /-- The bits that the change is about; none where that was not said. -/
  affected : Nat
  value : Nat
  mentioned : Nat
  copies : Bool := false
  /-- What may be run by anybody, or is a directory, may be run by all. -/
  runs : Bool := false
  deriving DecidableEq, Repr

namespace ModeChange

def whose? : Char → Option Nat
  | 'u' => some 0o4700
  | 'g' => some 0o2070
  | 'o' => some 0o1007
  | 'a' => some 0o7777
  | _ => none

/-- The bits of a letter that says what a change is about, and whether it is about what may be
run. -/
def what? : Char → Option (Nat × Bool)
  | 'r' => some (0o444, false)
  | 'w' => some (0o222, false)
  | 'x' => some (0o111, false)
  | 'X' => some (0, true)
  | 's' => some (0o6000, false)
  | 't' => some (0o1000, false)
  | _ => none

def copied? : Char → Option Nat
  | 'u' => some 0o700
  | 'g' => some 0o070
  | 'o' => some 0o007
  | _ => none

def isSign (c : Char) : Bool := c = '+' || c = '-' || c = '='

def octal (s : List Char) : Nat := s.foldl (fun n c => 8 * n + Decimal.digitValue c) 0

def isOctal (c : Char) : Bool := '0' ≤ c && c ≤ '7'

/-- The changes after the letters that say for whom they are. Each step takes at least one
character. -/
def signs? (affected : Nat) : Nat → List Char → Option (List ModeChange)
  | 0, _ => none
  | _ + 1, [] => some []
  | fuel + 1, sign :: s =>
    if !isSign sign then none
    else
      let about (value : Nat) (copies runs : Bool) : ModeChange :=
        { sign, affected, value, mentioned := if affected = 0 then value else affected &&& value
          copies, runs }
      match s with
      | c :: rest =>
        let digits := s.takeWhile isOctal
        if !digits.isEmpty then
          let n := octal digits
          if affected != 0 || 0o7777 < n || digits.length < s.length then none
          else some [{ sign, affected := 0o7777, value := n, mentioned := 0o7777 }]
        else
          match copied? c with
          | some bits => (signs? affected fuel rest).map (about bits true false :: ·)
          | none =>
            let letters := s.takeWhile (fun c => (what? c).isSome)
            let value := letters.foldl (fun n c => n ||| ((what? c).getD (0, false)).1) 0
            let runs := letters.any (fun c => c = 'X')
            (signs? affected fuel (s.drop letters.length)).map (about value false runs :: ·)
      | [] => some [about 0 false false]

def clause? (s : List Char) : Option (List ModeChange) :=
  let who := s.takeWhile (fun c => (whose? c).isSome)
  let affected := who.foldl (fun n c => n ||| (whose? c).getD 0) 0
  let rest := s.drop who.length
  if rest.isEmpty then none else signs? affected (rest.length + 1) rest

def ofText? (s : String) : Option (List ModeChange) :=
  let chars := s.toList
  if chars.head?.any isOctal then
    let n := octal chars
    if !chars.all isOctal || 0o7777 < n then none
    else
      let mentioned := if 4 < chars.length then 0o7777 else (n &&& 0o6000) ||| 0o1777
      some [{ sign := '=', affected := 0o7777, value := n, mentioned }]
  else ((partsBy (fun c => c = ',') chars).mapM clause?).map List.flatten

def apply (mask : Nat) (isDirectory : Bool) (old : Nat) (c : ModeChange) : Nat :=
  let omitted := if isDirectory then 0o6000 &&& (0o7777 ^^^ c.mentioned) else 0
  let all := 0o7777
  let value :=
    if c.copies then
      let bits := c.value &&& old
      let spread (bit all : Nat) : Nat := if bits &&& bit != 0 then all else 0
      spread 0o444 0o444 ||| spread 0o222 0o222 ||| spread 0o111 0o111
    else if c.runs && (isDirectory || old &&& 0o111 != 0) then c.value ||| 0o111
    else c.value
  let reach := if c.affected = 0 then all ^^^ mask else c.affected
  let value := value &&& reach &&& (all ^^^ omitted)
  match c.sign with
  | '+' => old ||| value
  | '-' => old &&& (all ^^^ value)
  | _ =>
    let kept := (if c.affected = 0 then 0 else all ^^^ c.affected) ||| omitted
    (old &&& kept) ||| value

def applyAll (mask : Nat) (isDirectory : Bool) (changes : List ModeChange) (old : Nat) : Nat :=
  changes.foldl (fun old c => c.apply mask isDirectory old) old

end ModeChange

def modeLetters (mode : Nat) : String :=
  let has (bit : Nat) : Bool := mode &&& bit != 0
  let three (read write run special : Nat) (both alone : Char) : List Char :=
    [if has read then 'r' else '-', if has write then 'w' else '-',
      if has special then if has run then both else alone else if has run then 'x' else '-']
  String.ofList (three 0o400 0o200 0o100 0o4000 's' 'S' ++ three 0o040 0o020 0o010 0o2000 's' 'S' ++
    three 0o004 0o002 0o001 0o1000 't' 'T')

def modeDigits (mode : Nat) : String := String.ofList (Nat.toDigits 8 mode)

def kindLetter (p : Process) (loc : Location) (node : Node) : Char :=
  if (p.linkAt? loc).isSome then 'l'
  else if node.isDirectory then 'd'
  else if (Device.at? loc).isSome then 'c'
  else '-'

def below (p : Process) : Nat → String → Location → List (String × Location)
  | 0, path, loc => [(path, loc)]
  | depth + 1, path, loc =>
    if p.isDirectoryAt loc then
      let lead := if path.endsWith "/" then path else path ++ "/"
      (path, loc) :: (p.namesAt loc).flatMap (fun name =>
        below p depth (lead ++ name) (Process.pathOf name :: loc))
    else [(path, loc)]

def depthLimit : Nat := 200

def modeFlags : List Flag :=
  [{ letter := 'R', word := "recursive" }, { letter := 'v', word := "verbose" },
   { letter := 'c', word := "changes" }, { letter := 'f', word := "silent" },
   { letter := 'q', word := "quiet", isShort := false },
   { letter := 'P', word := "preserve-root", isShort := false },
   { letter := 'N', word := "no-preserve-root", isShort := false },
   { letter := 'Z', word := "reference", taking := .argument, isShort := false }]

def chmod : Utility := fun _ call =>
  let isMode (a : String) : Bool := match a.toList with
    | '-' :: c :: _ => "rwxXstugoa,+=01234567".contains c
    | _ => false
  let ended := call.arguments.takeWhile (fun a => a != "--")
  let modes := ended.filter isMode
  let arguments := ended.filter (fun a => !isMode a) ++ call.arguments.drop ended.length
  withFlags { call with arguments } modeFlags true 1 (fun given => do
    let p ← get
    let isNamed := given.has 'Z' || !modes.isEmpty
    let text := if modes.isEmpty then given.others.headD "" else String.intercalate "," modes
    let paths := if isNamed then given.others else given.others.drop 1
    let reference := (given.value? 'Z').map (fun path => p.locateNode path true)
    let changes : Option (List ModeChange) := match reference with
      | some (.ok (loc, node)) =>
        some [{ sign := '=', affected := 0o7777, value := p.modeAt loc node, mentioned := 0o7777 }]
      | some (.error _) => some []
      | none => ModeChange.ofText? text
    match reference, changes with
    | some (.error e), _ =>
      fail call ("failed to get attributes of " ++ quoteName ((given.value? 'Z').getD "") ++ ": " ++
        e.wording) 1
    | _, changes =>
      if paths.isEmpty then
        misuse call (if given.others.isEmpty && !isNamed then "missing operand"
          else "missing operand after " ++ quote (given.others.headD text)) 1
      else
        match changes with
        | none => misuse call ("invalid mode: " ++ quote text) 1
        | some changes =>
          let one (code : Nat) (entry : String × Location) : StateM Process Nat := do
            let p ← get
            match p.disk.find? entry.2 with
            | none => pure code
            | some node =>
              let old := p.modeAt entry.2 node
              let new := ModeChange.applyAll p.mask node.isDirectory changes old
              let naive := ModeChange.applyAll 0 node.isDirectory changes old
              set (p.setMode entry.2 new)
              let shown (mode : Nat) : String :=
                String.ofList ((modeDigits mode).toList.leftpad 4 '0') ++ " (" ++
                  modeLetters mode ++ ")"
              if given.has 'v' || (given.has 'c' && old != new) then
                put ("mode of " ++ quoteName entry.1 ++
                  (if old = new then " retained as " ++ shown new
                    else " changed from " ++ shown old ++ " to " ++ shown new) ++ "\n").toList
              if !modes.isEmpty && new &&& (0o7777 ^^^ naive) != 0 then
                complain call (showName entry.1 ++ ": new permissions are " ++ modeLetters new ++
                  ", not " ++ modeLetters naive)
                pure 1
              else pure code
          let step (code : Nat) (path : String) : StateM Process Nat := do
            let p ← get
            match p.locateNode path true with
            | .error e =>
              if !given.hasAny "fq" then
                let isDangling := p.isLink path && e == .notFound
                complain call (if isDangling then
                    "cannot operate on dangling symlink " ++ quoteName path
                  else "cannot access " ++ quoteName path ++ ": " ++ e.wording)
              pure 1
            | .ok (loc, _) =>
              if given.has 'R' then
                ((below p depthLimit path loc).filter (fun e =>
                  (p.linkAt? e.2).isNone)).foldlM one code
              else one code (path, loc)
          exited (← paths.foldlM step 0))

end BuoyGateway.Shell.Utility
