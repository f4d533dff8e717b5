import BuoyGateway.Shell.Regex
import BuoyGateway.Shell.Utility.Listing

/-!
# Looking for lines

Lines are chosen that an expression matches, or all others. They are written with what was asked
for: the name of the file, the number of the line, and the lines around it.
-/

namespace BuoyGateway.Shell.Utility

structure Choosing where
  expression : Regex
  anyCase : Bool
  inverted : Bool
  partsOnly : Bool
  numbers : Bool
  offsets : Bool
  before : Nat
  after : Nat
  hasContext : Bool
  most : Option Nat

def Choosing.picks (c : Choosing) (line : List Char) : Bool :=
  c.expression.isIn c.anyCase line != c.inverted

/-- The matches in a line that have any characters, with their offsets. Each step takes at least one
character. -/
def Choosing.matches (c : Choosing) : Nat → Option Char → Nat → List Char →
    List (Nat × List Char)
  | 0, _, _, _ => []
  | fuel + 1, before, offset, s =>
    match c.expression.searchFrom c.anyCase before [] s with
    | none => []
    | some found =>
      let start := offset + found.front.length
      let last (s : List Char) (otherwise : Option Char) : Option Char :=
        match s.getLast? with
        | some c => some c
        | none => otherwise
      match found.text, found.rest with
      | [], [] => []
      | [], d :: rest => c.matches fuel (some d) (start + 1) rest
      | text, rest => (start, text) ::
          c.matches fuel (last text before) (start + text.length) rest

def Choosing.count (c : Choosing) (ls : List (List Char)) : Nat :=
  let n := (ls.filter c.picks).length
  match c.most with
  | some m => min m n
  | none => n

/-- A line that is written: its number, its offset, its text, and whether it is a chosen one. -/
structure ShownLine where
  number : Nat
  offset : Nat
  text : List Char
  isChosen : Bool

def Choosing.shown (c : Choosing) (ls : List (List Char)) : List ShownLine :=
  let (_, entries) := ls.zipIdx.foldl
    (fun (acc : Nat × List (Nat × Nat × List Char)) e =>
      (acc.1 + e.1.length + 1, (e.2 + 1, acc.1, e.1) :: acc.2))
    (0, [])
  let entries := entries.reverse
  let chosen := (entries.filter (fun e => c.picks e.2.2)).map Prod.fst
  let chosen := match c.most with
    | some m => chosen.take m
    | none => chosen
  let isNear (n : Nat) : Bool := chosen.any (fun k => n ≤ k + c.after && k ≤ n + c.before)
  (entries.filter (fun e => isNear e.1)).map (fun e =>
    ⟨e.1, e.2.1, e.2.2, chosen.contains e.1⟩)

/-- The text of the lines that are written, with a name in front of each, and with marks between
those that were not next to each other. -/
def Choosing.text (c : Choosing) (name : Option String) (tabbed : Bool) (begun : Bool)
    (ls : List ShownLine) : List Char :=
  let lead (l : ShownLine) (offset : Nat) : List Char :=
    let mark := if l.isChosen then ":" else "-"
    let parts := (name.toList.map (fun n => n ++ mark)) ++
      (if c.numbers then [numeral l.number ++ mark] else []) ++
      (if c.offsets then [numeral offset ++ mark] else [])
    (String.join parts ++ (if tabbed && !parts.isEmpty then "\t" else "")).toList
  let one (l : ShownLine) : List Char :=
    if c.partsOnly then
      if l.isChosen && !c.inverted then
        (c.matches (l.text.length + 2) none 0 l.text).flatMap (fun m =>
          lead l (l.offset + m.1) ++ m.2 ++ ['\n'])
      else []
    else lead l l.offset ++ l.text ++ ['\n']
  (ls.foldl
    (fun (acc : List (List Char) × Option Nat) l =>
      let isApart := match acc.2 with
        | some n => n + 1 != l.number
        | none => begun
      let gap := if c.hasContext && isApart then ['-', '-', '\n'] else []
      ((gap ++ one l) :: acc.1, some l.number))
    ([], none)).1.reverse.flatten

def choosingFlags : List Flag :=
  [{ letter := 'E', word := "extended-regexp" }, { letter := 'F', word := "fixed-strings" },
   { letter := 'G', word := "basic-regexp" }, { letter := 'P', word := "perl-regexp" },
   { letter := 'e', word := "regexp", taking := .argument },
   { letter := 'f', word := "file", taking := .argument },
   { letter := 'i', word := "ignore-case" }, { letter := 'y' },
   { letter := 'v', word := "invert-match" }, { letter := 'w', word := "word-regexp" },
   { letter := 'x', word := "line-regexp" }, { letter := 'c', word := "count" },
   { letter := 'l', word := "files-with-matches" },
   { letter := 'L', word := "files-without-match" }, { letter := 'q', word := "quiet" },
   { letter := 's', word := "no-messages" }, { letter := 'h', word := "no-filename" },
   { letter := 'H', word := "with-filename" }, { letter := 'n', word := "line-number" },
   { letter := 'b', word := "byte-offset" }, { letter := 'o', word := "only-matching" },
   { letter := 'm', word := "max-count", taking := .argument },
   { letter := 'A', word := "after-context", taking := .argument },
   { letter := 'B', word := "before-context", taking := .argument },
   { letter := 'C', word := "context", taking := .argument },
   { letter := 'r', word := "recursive" },
   { letter := 'R', word := "dereference-recursive" }, { letter := 'a', word := "text" },
   { letter := 'I' }, { letter := 'U', word := "binary" }, { letter := 'z', word := "null-data" },
   { letter := 'Z', word := "null" }, { letter := 'T', word := "initial-tab" },
   { letter := 'D', taking := .argument }, { letter := 'd', taking := .argument },
   { letter := 'J', word := "include", taking := .argument, isShort := false },
   { letter := 'K', word := "exclude", taking := .argument, isShort := false },
   { letter := 'M', word := "exclude-dir", taking := .argument, isShort := false },
   { letter := 'N', word := "label", taking := .argument, isShort := false },
   { letter := 'O', word := "color", taking := .attached, isShort := false },
   { letter := 'Q', word := "colour", taking := .attached, isShort := false },
   { letter := 'S', word := "line-buffered", isShort := false },
   { letter := 'V', word := "silent", isShort := false }]

/-- Arguments in which a number of lines around chosen ones is an option of its own. -/
def withContext (arguments : List String) : List String :=
  let (before, after) := arguments.span (fun a => a != "--")
  before.map (fun a => match a.toList with
    | '-' :: s =>
      if !s.isEmpty && s.all Char.isDigit then "-C" ++ String.ofList s else a
    | _ => a) ++ after

/-- An expression of another kind as an extended one, as far as that can be done. -/
def asExtended : List Char → List Char
  | '\\' :: 'd' :: s => "[0-9]".toList ++ asExtended s
  | '\\' :: 'D' :: s => "[^0-9]".toList ++ asExtended s
  | '\\' :: 't' :: s => '\t' :: asExtended s
  | '\\' :: c :: s => '\\' :: c :: asExtended s
  | '(' :: '?' :: ':' :: s => '(' :: asExtended s
  | c :: s => c :: asExtended s
  | [] => []

def misuseOf (call : Call) (usage text : String) (code : Nat) : StateM Process Outcome := do
  if text != "" then complain call text
  putError (usage ++ "\nTry '" ++ call.name ++ " --help' for more information.\n")
  exited code

def grepUsage : String := "Usage: grep [OPTION]... PATTERNS [FILE]..."

/-- What is looked through: files in their order, each with what was wrong with it. -/
def searched (p : Process) (given : Given) (paths : List String) : List String :=
  if !given.hasAny "rR" then paths
  else
    let isWanted (name : String) : Bool :=
      ((given.values 'J').isEmpty || (given.values 'J').any (fun g => fits g name)) &&
        !(given.values 'K').any (fun g => fits g name)
    let rec inTree (depth : Nat) (path : String) (loc : Location) : List String :=
      match depth with
      | 0 => []
      | depth + 1 =>
        (p.namesAt loc).flatMap (fun name =>
          let sub := if path = "" then name else inDirectory path name
          let loc := Process.pathOf name :: loc
          if p.isDirectoryAt loc then
            if (given.values 'M').any (fun g => fits g name) then [] else inTree depth sub loc
          else if (p.linkAt? loc).isSome && !given.has 'R' then []
          else if isWanted name then [sub] else [])
    paths.flatMap (fun path =>
      match if path = "-" then .error .notFound else p.locateNode path true with
      | .ok (loc, node) => if node.isDirectory then inTree depthLimit path loc else [path]
      | .error _ => [path])

def lookFor (kind : Char) : Utility := fun _ call =>
  let call := { call with arguments := withContext call.arguments }
  match options choosingFlags true [] [] call.arguments with
  | .error e => misuseOf call grepUsage e 2
  | .ok (flags, others) => do
    let given : Given := ⟨flags, others⟩
    let isNamed := given.hasAny "ef"
    let step (acc : Except (String × SystemError) (List (List Char))) (flag : Char × String) :
        StateM Process (Except (String × SystemError) (List (List Char))) := do
      match acc, flag.1 with
      | .ok found, 'e' => pure (.ok (found ++ partsBy (fun c => c = '\n') flag.2.toList))
      | .ok found, 'f' =>
        match ← readFile flag.2 with
        | .ok text => pure (.ok (found ++ lines text))
        | .error e => pure (.error (flag.2, e))
      | acc, _ => pure acc
    let named ← given.flags.foldlM step (.ok [])
    let number (c : Char) : Except String Nat :=
      match given.value? c with
      | none => .ok 0
      | some s =>
        match nat? s with
        | some n => .ok n
        | none => .error (s ++ ": invalid context length argument")
    match named with
    | .error (path, e) => fail call (showName path ++ ": " ++ e.wording) 2
    | .ok named =>
      if !isNamed && others.isEmpty then misuseOf call grepUsage "" 2
      else
        let patterns :=
          if isNamed then named
          else partsBy (fun c => c = '\n') (others.headD "").toList
        let paths := if isNamed then others else others.drop 1
        let kind := (given.last? "EFGP").getD kind
        let read (s : List Char) : Except String Regex :=
          match kind with
          | 'F' => .ok (Regex.ofText s)
          | 'E' => Regex.read true false s
          | 'P' => Regex.read true false (asExtended s)
          | _ => Regex.read false false s
        let isMixed := given.flags.any (fun f =>
          "EFGP".contains f.1 && f.1 != kind)
        let settings : Except String (Regex × Nat × Nat × Option Nat) := do
          if isMixed then throw "conflicting matchers specified"
          let around ← number 'C'
          let before ← number 'B'
          let after ← number 'A'
          let most ← match given.value? 'm' with
            | none => pure none
            | some s =>
              match nat? s with
              | some n => pure (some n)
              | none => if s.startsWith "-" then pure none else throw "invalid max count"
          let all ← patterns.mapM read
          let r := match all.reverse with
            | [] => Regex.oneOf false []
            | last :: others => others.foldl (fun r x => .either x r) last
          pure (r.within (given.has 'w') (given.has 'x'),
            if given.has 'B' then before else around, if given.has 'A' then after else around, most)
        match settings with
        | .error e => fail call e 2
        | .ok (expression, before, after, most) =>
          if kind = 'E' then
            for pattern in patterns do
              for sign in Regex.idleSigns (pattern.length + 1) true pattern do
                complain call ("warning: " ++ sign ++ " at start of expression")
          let c : Choosing := {
            expression, most
            anyCase := given.hasAny "iy"
            inverted := given.has 'v'
            partsOnly := given.has 'o'
            numbers := given.has 'n'
            offsets := given.has 'b'
            before := if given.has 'o' then 0 else before
            after := if given.has 'o' then 0 else after
            hasContext := before + after != 0 }
          let recursive := given.hasAny "rR"
          let named := paths
          let paths := if !paths.isEmpty then paths else if recursive then [""] else ["-"]
          let p ← get
          let all := if recursive && named.isEmpty then
              (searched p given ["."]).map (fun path => String.ofList (path.toList.drop 2))
            else searched p given paths
          let withNames := given.last? "hH" = some 'H' ||
            (given.last? "hH" = none && (1 < paths.length || recursive))
          let quiet := given.hasAny "qV"
          let stop := if given.has 'z' then '\x00' else '\n'
          let one (acc : Bool × Bool × Bool) (path : String) :
              StateM Process (Bool × Bool × Bool) := do
            let (found, failed, begun) := acc
            if quiet && found then pure acc
            else
              match ← readFile path with
              | .error e =>
                if !(given.has 's') then fileFault call path e
                pure (found, true, begun)
              | .ok text =>
                let shown := if path = "-" then (given.value? 'N').getD "(standard input)" else path
                let ls := (rowsBy stop text).map (fun row =>
                  if row.getLast? = some stop then row.dropLast else row)
                let n := c.count ls
                let isBinary := text.contains '\x00' && !given.hasAny "az"
                let ending := if given.has 'Z' then "\x00" else "\n"
                if quiet then pure (found || n != 0, failed, begun)
                else if given.hasAny "lL" then
                  let isListed := if given.last? "lL" = some 'l' then n != 0 else n = 0
                  if isListed then put (shown ++ ending).toList
                  pure (found || n != 0, failed, begun)
                else if given.has 'c' then
                  let lead := if withNames then
                      shown ++ (if given.has 'Z' then "\x00" else ":") else ""
                  put (lead ++ numeral n ++ "\n").toList
                  pure (found || n != 0, failed, begun)
                else if n = 0 then pure acc
                else if isBinary then
                  if !given.has 'I' then
                    put (call.name ++ ": " ++ shown ++ ": binary file matches\n").toList
                  pure (true, failed, begun)
                else
                  let name := if withNames then some shown else none
                  let text := c.text name (given.has 'T') begun (c.shown ls)
                  put (if stop = '\n' then text
                    else text.map (fun c => if c = '\n' then stop else c))
                  pure (true, failed, true)
          let (found, failed, _) ← all.foldlM one (false, false, false)
          exited (if failed && !(quiet && found) then 2 else if found then 0 else 1)

def grep : Utility := lookFor 'G'

def egrep : Utility := fun run call => lookFor 'E' run { call with name := "grep" }

def fgrep : Utility := fun run call => lookFor 'F' run { call with name := "grep" }

end BuoyGateway.Shell.Utility
