import BuoyGateway.Shell.Utility.Editing
import BuoyGateway.Shell.Utility.Filing

/-!
# Editing line by line

An editor has a line at hand and another text that it keeps. For each line of its input all commands
are carried out that apply to it; then the line is written. The fuel bounds how many commands are
carried out.
-/

namespace BuoyGateway.Shell.Utility

/-- A line of the input: its text, whether it was ended, and the name of its file. -/
structure InputLine where
  text : List Char
  ended : Bool
  file : String

inductive Appended
  | text (s : List Char)
  | file (path : String)
  | line (s : List Char)

/-- What goes to a file or to the output: its parts, the latest first, and whether the end of a line
is missing. -/
structure Written where
  parts : List (List Char) := []
  open' : Bool := false

/-- Adds a text that may lack the end of its line, which is made up for when something follows. -/
def Written.add (w : Written) (stop : Char) (s : List Char) (ended : Bool) : Written :=
  let parts := if w.open' then [stop] :: w.parts else w.parts
  { parts := (if ended then [stop] else []) :: s :: parts, open' := !ended }

def Written.addRaw (w : Written) (stop : Char) (s : List Char) : Written :=
  let parts := if w.open' then [stop] :: w.parts else w.parts
  { parts := s :: parts }

def Written.text (w : Written) : List Char := w.parts.reverse.flatten

/-- How far the lines that two addresses mean have been gone through: not begun, or until which line
if that is known. -/
inductive Span
  | outside
  | inside (last : Option Nat)
  deriving DecidableEq, Repr

structure Editor where
  rest : List InputLine
  number : Nat := 0
  file : String := "-"
  line : List Char := []
  ended : Bool := true
  kept : List Char := []
  keptEnded : Bool := true
  appended : List Appended := []
  out : Written := {}
  files : List (String × Written) := []
  readers : List (String × List InputLine) := []
  spans : List (Nat × Span) := []
  replaced : Bool := false
  last : Option (Regex × Bool) := none

structure EditSettings where
  quiet : Bool := false
  stop : Char := '\n'
  width : Nat := 70
  fetch : String → Option (List Char)

def inputLines (stop : Char) (file : String) (s : List Char) : List InputLine :=
  (rowsBy stop s).map (fun row =>
    if row.getLast? = some stop then ⟨row.dropLast, true, file⟩ else ⟨row, false, file⟩)

inductive EditEnd
  /-- The line is done with, and is written if that was not forbidden. -/
  | done (printing : Bool)
  | again
  | quit (code : Nat) (printing : Bool)
  | lost
  | endless

namespace Editor

def write (e : Editor) (c : EditSettings) (s : List Char) (ended : Bool) : Editor :=
  { e with out := e.out.add c.stop s ended }

def writeTo (e : Editor) (c : EditSettings) (path : String) (s : List Char) (ended : Bool) :
    Editor :=
  if path = "/dev/stdout" then e.write c s ended
  else
    let before := (e.files.lookup path).getD {}
    { e with files :=
        e.files.filter (fun f => f.1 != path) ++ [(path, before.add c.stop s ended)] }

def flush (e : Editor) (c : EditSettings) : Editor :=
  let one (out : Written) : Appended → Written
    | .text s => out.addRaw c.stop s
    | .file path =>
      match c.fetch path with
      | some s => if s.isEmpty then out else out.addRaw c.stop s
      | none => out
    | .line s => out.add c.stop s true
  { e with out := e.appended.reverse.foldl one e.out, appended := [] }

def advance? (e : Editor) (c : EditSettings) (joined : Bool) : Option Editor :=
  match e.rest with
  | [] => none
  | l :: rest =>
    let e := e.flush c
    some { e with
      rest := rest
      number := e.number + 1
      file := l.file
      line := if joined then e.line ++ c.stop :: l.text else l.text
      ended := l.ended
      replaced := if joined then e.replaced else e.replaced }

/-- The expression that is meant, and whether cases count; the editor remembers it. -/
def meant (e : Editor) (s : Sought) : Option (Regex × Bool × Editor) :=
  match s.expression with
  | some r => some (r, s.anyCase, { e with last := some (r, s.anyCase) })
  | none => e.last.map (fun (r, anyCase) => (r, anyCase, e))

/-- The line is one that an address means; nothing where an expression is missing. -/
def isAt (e : Editor) (a : LineAddress) : Option (Bool × Editor) :=
  match a with
  | .line n => some (e.number = n, e)
  | .last => some (e.rest.isEmpty, e)
  | .every first step =>
    some (if e.number < first then false else (e.number - first) % step = 0, e)
  | .further _ | .multiple _ => some (false, e)
  | .sought s => (e.meant s).map (fun (r, anyCase, e) => (r.isIn anyCase e.line, e))

def spanOf (e : Editor) (index : Nat) (command : EditCommand) : Span :=
  match e.spans.lookup index with
  | some span => span
  | none => match command.first with
    | some (.line 0) => .inside none
    | _ => .outside

def setSpan (e : Editor) (index : Nat) (span : Span) : Editor :=
  { e with spans := (index, span) :: e.spans.filter (fun s => s.1 != index) }

def applies (e : Editor) (index : Nat) (command : EditCommand) : Option (Bool × Editor) := do
  match command.first, command.second with
  | none, _ => pure (true, e)
  | some a, none => e.isAt a
  | some a, some b =>
    match e.spanOf index command with
    | .outside =>
      let (here, e) ← e.isAt a
      if !here then pure (false, e)
      else
        let last : Option Nat := match b with
          | .line n => some n
          | .further n => some (e.number + n)
          | .multiple n => some (if n = 0 then e.number else (e.number + n - 1) / n * n)
          | _ => none
        match last with
        | some last =>
          pure (true, if last ≤ e.number then e else e.setSpan index (.inside (some last)))
        | none =>
          let isOver := match b with
            | .last => e.rest.isEmpty
            | _ => false
          pure (true, if isOver then e else e.setSpan index (.inside none))
    | .inside (some last) =>
      pure (e.number ≤ last, if last ≤ e.number then e.setSpan index .outside else e)
    | .inside none =>
      let (here, e) ← e.isAt b
      pure (true, if here then e.setSpan index .outside else e)

/-- Letters changed as was asked for: what holds for the next one, and for all. -/
def cased (next all : CaseChange) (s : List Char) : List Char × CaseChange :=
  let whole (c : Char) : Char := match all with
    | .upper => c.toUpper
    | .lower => c.toLower
    | _ => c
  match s with
  | [] => ([], next)
  | c :: rest =>
    let first := match next with
      | .upperNext => c.toUpper
      | .lowerNext => c.toLower
      | _ => whole c
    (first :: rest.map whole, .none)

def replacementText (parts : List ReplacementPart) (found : Regex.Found) : List Char :=
  let step (acc : List (List Char) × CaseChange × CaseChange) (part : ReplacementPart) :
      List (List Char) × CaseChange × CaseChange :=
    let (done, next, all) := acc
    let add (s : List Char) : List (List Char) × CaseChange × CaseChange :=
      let (s, next) := cased next all s
      (s :: done, next, all)
    match part with
    | .char c => add [c]
    | .group n => add (if n = 0 then found.text else (found.groups.lookup n).getD [])
    | .case .upper => (done, next, .upper)
    | .case .lower => (done, next, .lower)
    | .case .none => (done, .none, .none)
    | .case change => (done, change, all)
  (parts.foldl step ([], .none, .none)).1.reverse.flatten

/-- A text in which matches from the `count`-th on were replaced, or only that one; and whether
there was one. `afterMatch` says that a match ended where the text begins. Each step takes at least
one character. -/
def replaceIn (r : Regex) (anyCase : Bool) (parts : List ReplacementPart) (global : Bool) :
    Nat → Nat → Option Char → Bool → List Char → List Char × Bool
  | 0, _, _, _, s => (s, false)
  | fuel + 1, count, before, afterMatch, s =>
    match r.searchFrom anyCase before [] s with
    | none => (s, false)
    | some found =>
      let isEmpty := found.text.isEmpty
      let lastBefore : Option Char := match (found.front ++ found.text).getLast? with
        | some c => some c
        | none => before
      let skips := isEmpty && found.front.isEmpty && afterMatch
      let (shown, isDone) : List Char × Bool :=
        if skips || 1 < count then (found.text, false) else (replacementText parts found, true)
      let count := if skips || count = 1 then count else count - 1
      if isDone && !global then (found.front ++ shown ++ found.rest, true)
      else if isEmpty then
        match found.rest with
        | [] => (found.front ++ shown, isDone)
        | c :: rest =>
          let (more, replaced) := replaceIn r anyCase parts global fuel count (some c) false rest
          (found.front ++ shown ++ c :: more, isDone || replaced)
      else
        let (more, replaced) :=
          replaceIn r anyCase parts global fuel count lastBefore true found.rest
        (found.front ++ shown ++ more, isDone || replaced)

def listed (width : Nat) (s : List Char) : List Char :=
  let sign (c : Char) : List Char :=
    if c = '\\' then ['\\', '\\'] else if isVisible c then [c] else hiddenSign c
  let (parts, _) := s.foldl
    (fun (acc : List (List Char) × Nat) c =>
      let t := sign c
      if 1 < width && width - 1 < acc.2 + t.length then
        (t :: ['\\', '\n'] :: acc.1, t.length)
      else (t :: acc.1, acc.2 + t.length))
    ([], 0)
  parts.reverse.flatten ++ ['$']

/-- The part of the line up to its first end of a line, and what follows that. -/
def firstPart (e : Editor) (c : EditSettings) : List Char × Option (List Char) :=
  let front := e.line.takeWhile (fun d => d != c.stop)
  (front, if front.length < e.line.length then some (e.line.drop (front.length + 1)) else none)

def closing (commands : Array EditCommand) : Nat → Nat → Nat → Nat
  | 0, _, i => i
  | fuel + 1, depth, i =>
    match commands[i]? with
    | none => i
    | some command =>
      match command.action with
      | .block => closing commands fuel (depth + 1) (i + 1)
      | .blockEnd => if depth = 0 then i else closing commands fuel (depth - 1) (i + 1)
      | _ => closing commands fuel depth (i + 1)

def target (commands : Array EditCommand) (label : String) : Nat :=
  if label = "" then commands.size
  else (commands.findIdx? (fun command => command.label = some label)).getD commands.size

def perform (c : EditSettings) (commands : Array EditCommand) :
    Nat → Nat → Editor → EditEnd × Editor
  | 0, _, e => (.endless, e)
  | fuel + 1, i, e =>
    match commands[i]? with
    | none => (.done true, e)
    | some command =>
      match e.applies i command with
      | none => (.lost, e)
      | some (here, e) =>
        let isFor := here != command.negated
        let go (e : Editor) : EditEnd × Editor := perform c commands fuel (i + 1) e
        if !isFor then
          match command.action with
          | .block =>
            perform c commands fuel (closing commands commands.size 0 (i + 1) + 1) e
          | _ => go e
        else
          match command.action with
          | .block | .blockEnd | .nothing => go e
          | .append s => go { e with appended := .text s :: e.appended }
          | .insert s => go { e with out := e.out.add c.stop (trimmed s) true }
          | .change s =>
            let isInside := command.second.isSome && !command.negated &&
              e.spanOf i command != .outside
            let out := if s.isEmpty then e.out else e.out.add c.stop (trimmed s) true
            (.done false, if isInside then e else { e with out })
          | .branch label => perform c commands fuel (target commands label) e
          | .branchIf wanted label =>
            let e' := { e with replaced := false }
            if e.replaced = wanted then
              perform c commands fuel (target commands label) e'
            else go e'
          | .delete => (.done false, e)
          | .deleteFirst =>
            match (e.firstPart c).2 with
            | none => (.done false, e)
            | some rest => (.again, { e with line := rest })
          | .printName => go (e.write c e.file.toList true)
          | .get => go { e with line := e.kept, ended := e.keptEnded }
          | .getMore =>
            go { e with line := e.line ++ c.stop :: e.kept, ended := e.keptEnded }
          | .keep => go { e with kept := e.line, keptEnded := e.ended }
          | .keepMore => go { e with kept := e.kept ++ c.stop :: e.line }
          | .list width => go (e.write c (listed (width.getD c.width) e.line) true)
          | .next =>
            if e.rest.isEmpty then (.done true, e)
            else
              let e := if c.quiet then e else e.write c e.line e.ended
              match e.advance? c false with
              | some e => go e
              | none => (.done false, e)
          | .nextMore =>
            match e.advance? c true with
            | some e => go e
            | none => (.done true, e)
          | .print => go (e.write c e.line e.ended)
          | .printFirst =>
            let (front, rest) := e.firstPart c
            go (e.write c front (rest.isSome || e.ended))
          | .quit code printing => (.quit code printing, e)
          | .readFile path => go { e with appended := .file path :: e.appended }
          | .readLine path =>
            let left := match e.readers.lookup path with
              | some left => left
              | none => ((c.fetch path).map (inputLines c.stop path)).getD []
            let others := e.readers.filter (fun r => r.1 != path)
            match left with
            | [] => go { e with readers := (path, []) :: others }
            | l :: left =>
              go { e with
                readers := (path, left) :: others
                appended := .line l.text :: e.appended }
          | .substitute what parts global printing count path =>
            match e.meant what with
            | none => (.lost, e)
            | some (r, anyCase, e) =>
              let (line, replaced) :=
                replaceIn r anyCase parts global (e.line.length + 2) count none false e.line
              if !replaced then go e
              else
                let e := { e with line, replaced := true }
                let e := if printing then e.write c line e.ended else e
                go (match path with
                  | some path => e.writeTo c path line e.ended
                  | none => e)
          | .writeFile path => go (e.writeTo c path e.line e.ended)
          | .writeFirst path =>
            let (front, rest) := e.firstPart c
            go (e.writeTo c path front (rest.isSome || e.ended))
          | .exchange =>
            go { e with line := e.kept, kept := e.line, ended := e.keptEnded, keptEnded := e.ended }
          | .translate pairs => go { e with line := e.line.map (fun d => (pairs.lookup d).getD d) }
          | .number => go (e.write c (Decimal.digits e.number) true)
          | .clear => go { e with line := [] }

def runAll (c : EditSettings) (commands : Array EditCommand) :
    Nat → Bool → Editor → EditEnd × Editor
  | 0, _, e => (.endless, e)
  | fuel + 1, again, e =>
    match if again then some e else e.advance? c false with
    | none => (.done false, e.flush c)
    | some e =>
      let e := if again then e else { e with replaced := false }
      match perform c commands fuel 0 e with
      | (.done printing, e) =>
        let e := if printing && !c.quiet then e.write c e.line e.ended else e
        runAll c commands fuel false (e.flush c)
      | (.again, e) => runAll c commands fuel true (e.flush c)
      | (.quit code printing, e) =>
        let e := if printing && !c.quiet then e.write c e.line e.ended else e
        let e := if printing then { e with out := e.out.addRaw c.stop [] } else e
        (.quit code printing, if printing then e.flush c else e)
      | (outcome, e) => (outcome, e)

end Editor

/-! ### The utility -/

/-- The commands of one text that was given, and how many braces it leaves open. -/
def editCommands (style : EditStyle) (depth : Nat) (s : List Char) :
    Except EditFault (List EditCommand × Nat) :=
  EditCommand.readAll style (s.length + 2) depth s

/-- A command that goes on in the next text: it ends with a backslash that is none of a pair. -/
def goesOn (s : String) : Bool := (s.toList.reverse.takeWhile (fun c => c = '\\')).length % 2 = 1

def joinedTexts : List (Nat × Option String × String) → List (Nat × Option String × String)
  | (n, none, s) :: (m, none, t) :: rest =>
    if goesOn s then
      match joinedTexts ((m, none, t) :: rest) with
      | (_, _, u) :: others => (n, none, s ++ "\n" ++ u) :: others
      | [] => [(n, none, s)]
    else (n, none, s) :: joinedTexts ((m, none, t) :: rest)
  | x :: rest => x :: joinedTexts rest
  | [] => []

def EditFault.message (fault : EditFault) (n : Nat) (path : Option String) (s : String) : String :=
  if fault.isGeneral then fault.text
  else
    let taken := s.length - fault.left
    match path with
    | none =>
      "-e expression #" ++ numeral n ++ ", char " ++ numeral taken ++ ": " ++ fault.text
    | some path =>
      let line := (s.toList.take taken).count '\n' +
        (if (s.toList.take taken).getLast? = some '\n' then 0 else 1)
      "file " ++ path ++ " line " ++ numeral line ++ ": " ++ fault.text

def writtenPaths (commands : List EditCommand) : List String :=
  (commands.flatMap (fun command => match command.action with
    | .writeFile path | .writeFirst path => [path]
    | .substitute _ _ _ _ _ (some path) => [path]
    | _ => [])).eraseDups

def editLimit : Nat := 3000000

def editFlags : List Flag :=
  [{ letter := 'n', word := "quiet" }, { letter := 'N', word := "silent", isShort := false },
   { letter := 'e', word := "expression", taking := .argument },
   { letter := 'f', word := "file", taking := .argument },
   { letter := 'E', word := "regexp-extended" }, { letter := 'r' },
   { letter := 'i', word := "in-place", taking := .attached },
   { letter := 's', word := "separate" }, { letter := 'u', word := "unbuffered" },
   { letter := 'z', word := "null-data" },
   { letter := 'l', word := "line-length", taking := .argument },
   { letter := 'P', word := "posix", isShort := false },
   { letter := 'D', word := "debug", isShort := false },
   { letter := 'S', word := "sandbox", isShort := false },
   { letter := 'L', word := "follow-symlinks", isShort := false }]

def editUsage : String :=
  "Usage: sed [OPTION]... \x7bscript-only-if-no-other-script\x7d [input-file]..."

def backupPath (suffix path : String) : String :=
  let name := lastName path
  let kept := if suffix.contains '*' then String.intercalate name (suffix.splitOn "*")
    else name ++ suffix
  if kept.contains '/' then kept
  else if path.contains '/' then inDirectory (parentPath path) kept else kept

def sed : Utility := fun _ call =>
  match options editFlags true [] [] call.arguments with
  | .error e => do
    complain call e
    putError (editUsage ++ "\n")
    exited 1
  | .ok (flags, others) => do
    let given : Given := ⟨flags, others⟩
    let isNamed := given.hasAny "ef"
    let step (acc : Except String (List (Nat × Option String × String) × Nat))
        (flag : Char × String) :
        StateM Process (Except String (List (Nat × Option String × String) × Nat)) := do
      match acc, flag.1 with
      | .ok (texts, n), 'e' => pure (.ok (texts ++ [(n + 1, none, flag.2)], n + 1))
      | .ok (texts, n), 'f' =>
        match ← readFile flag.2 with
        | .ok text => pure (.ok (texts ++ [(n, some flag.2, String.ofList text)], n))
        | .error e => pure (.error ("couldn't open file " ++ flag.2 ++ ": " ++ e.wording))
      | acc, _ => pure acc
    let named : Except String (List (Nat × Option String × String) × Nat) ←
      given.flags.foldlM step (.ok ([], 0))
    match named with
    | .error e => fail call e 1
    | .ok (named, _) =>
      if !isNamed && others.isEmpty then
        putError (editUsage ++ "\n")
        exited 1
      else
        let texts := joinedTexts (if isNamed then named else [(1, none, others.headD "")])
        let paths := if isNamed then others else others.drop 1
        let style : EditStyle := { extended := given.hasAny "Er" }
        let read := texts.foldl
          (fun (acc : Except String (List EditCommand × Nat × Nat)) t =>
            match acc with
            | .error e => .error e
            | .ok (commands, depth, opened) =>
              match editCommands style depth t.2.2.toList with
              | .error fault => .error (fault.message t.1 t.2.1 t.2.2)
              | .ok (more, depth') =>
                .ok (commands ++ more, depth', if depth < depth' then t.1 else opened))
          (.ok ([], 0, 1))
        match read with
        | .error e => fail call e (if e = Regex.loneClass then 4 else 1)
        | .ok (_, _ + 1, opened) =>
          fail call ("-e expression #" ++ numeral opened ++ ", char 0: unmatched \x60\x7b'") 1
        | .ok (commands, 0, _) =>
          let labels := commands.filterMap EditCommand.label
          let wanted := commands.filterMap (fun command => match command.action with
            | .branch l | .branchIf _ l => if l = "" || labels.contains l then none else some l
            | _ => none)
          match wanted.head? with
          | some l => fail call ("can't find label for jump to \x60" ++ l ++ "'") 1
          | none =>
            let isMuted := texts.head?.any (fun t => t.2.2.startsWith "#n")
            let stop := if given.has 'z' then '\x00' else '\n'
            let p ← get
            let fetch (path : String) : Option (List Char) :=
              match p.locateNode path true with
              | .ok (loc, node) =>
                if node.isDirectory then none else (p.readPlace loc).toOption
              | .error _ => none
            let settings : EditSettings :=
              { quiet := given.hasAny "nN" || isMuted, stop, fetch
                width := ((given.value? 'l').bind nat?).getD 70 }
            for path in writtenPaths commands do
              if path != "/dev/stdout" && path != "/dev/stderr" then
                let _ ← writeFile path false []
            let program := commands.toArray
            let finish (e : Editor) : StateM Process Unit := do
              for (path, w) in e.files do
                if path = "/dev/stderr" then putError (String.ofList w.text)
                else
                  let _ ← writeFile path true w.text
            let isSeparate := given.hasAny "si"
            let isInPlace := given.has 'i'
            let readOne (acc : List (String × List Char) × Nat) (path : String) :
                StateM Process (List (String × List Char) × Nat) := do
              let isFolder := ((← get).node? path).any Node.isDirectory
              if isInPlace && isFolder then
                complain call ("couldn't edit " ++ path ++ ": not a regular file")
                pure (acc.1, 4)
              else
                match ← readFile path with
                | .ok text => pure ((path, text) :: acc.1, acc.2)
                | .error .isDirectory =>
                  complain call ("read error on " ++ path ++ ": Is a directory")
                  pure (acc.1, 4)
                | .error e =>
                  complain call ("can't read " ++ path ++ ": " ++ e.wording)
                  pure (acc.1, max acc.2 2)
            let (found, code) ← (orInput paths).foldlM readOne ([], 0)
            let found := found.reverse
            let inputs : List (List InputLine) :=
              if isSeparate then found.map (fun t => inputLines stop t.1 t.2)
              else [found.flatMap (fun t => inputLines stop t.1 t.2)]
            let stepInput (acc : Option EditEnd × Editor × Nat) (input : List InputLine) :
                StateM Process (Option EditEnd × Editor × Nat) := do
              match acc.1 with
              | some outcome => pure (some outcome, acc.2)
              | none =>
                let e : Editor := { acc.2.1 with rest := input, number := 0, spans := [] }
                let (outcome, e) := e.runAll settings program editLimit false
                let rest := e.rest.map (fun l => l.text ++ (if l.ended then [stop] else []))
                let path := (found.getD acc.2.2 ("", [])).1
                if isInPlace then
                  match given.value? 'i' with
                  | some suffix =>
                    if suffix != "" then
                      let _ ← writeFile (backupPath suffix path) false
                        ((found.getD acc.2.2 ("", [])).2)
                  | none => pure ()
                  let _ ← writeFile path false (e.out.text ++ rest.flatten)
                let e := if isInPlace then { e with out := {} } else e
                match outcome with
                | .done _ => pure (none, e, acc.2.2 + 1)
                | outcome => pure (some outcome, e, acc.2.2 + 1)
            let (outcome, e, _) ← inputs.foldlM stepInput (none, { rest := [] }, 0)
            finish e
            match outcome with
            | some (.quit quitCode _) => emit call e.out.text quitCode
            | some .lost =>
              put e.out.text
              fail call "-e expression #1, char 0: no previous regular expression" 1
            | some .endless =>
              put e.out.text
              pure (.killed Signal.watchdog)
            | _ => emit call e.out.text code

end BuoyGateway.Shell.Utility
