import BuoyGateway.Shell.Pattern
import BuoyGateway.Shell.Tree
import BuoyGateway.Shell.Utility.Basic

/-!
# Utilities for paths

They take paths apart, find out where paths lead, and make names that nothing has yet.
-/

namespace BuoyGateway.Shell.Utility

/-! ### Parts of paths -/

def withoutSlashes (s : String) : String :=
  match (s.toList.reverse.dropWhile (fun c => c = '/')).reverse with
  | [] => if s = "" then "" else "/"
  | rest => String.ofList rest

def lastName (s : String) : String :=
  let s := withoutSlashes s
  if s = "/" then s
  else String.ofList ((s.toList.reverse.takeWhile (fun c => c != '/')).reverse)

def parentPath (s : String) : String :=
  let rest := ((withoutSlashes s).toList.reverse.dropWhile (fun c => c != '/')).reverse
  if rest.isEmpty then "." else withoutSlashes (String.ofList rest)

def inDirectory (dir name : String) : String :=
  if dir.endsWith "/" then dir ++ name else dir ++ "/" ++ name

def withoutEnding (ending s : String) : String :=
  if s != ending && s.endsWith ending then String.ofList (s.toList.take (s.length - ending.length))
  else s

/-- A name fits a pattern, in which brackets are turned round by a circumflex, too. -/
def fits (pattern name : String) : Bool :=
  let rec glyphs : List Char → List Glyph
    | '[' :: '^' :: rest => ('[', false) :: ('!', false) :: glyphs rest
    | c :: rest => (c, false) :: glyphs rest
    | [] => []
  Pattern.matchesAll (Pattern.ofGlyphs (glyphs pattern.toList)) name.toList

def basename : Utility := fun _ call =>
  withFlags call
    [{ letter := 'a', word := "multiple" },
     { letter := 's', word := "suffix", taking := .argument },
     { letter := 'z', word := "zero" }] false 1
    (fun given =>
      let stop := if given.has 'z' then '\x00' else '\n'
      let write (ending : String) (paths : List String) : StateM Process Outcome :=
        emit call (paths.flatMap (fun path =>
          (withoutEnding ending (lastName path)).toList ++ [stop])) 0
      match given.others with
      | [] => misuse call "missing operand" 1
      | paths@(first :: rest) =>
        if given.hasAny "as" then write ((given.value? 's').getD "") paths
        else
          match rest with
          | [] => write "" [first]
          | [ending] => write ending [first]
          | _ :: extra :: _ => misuse call ("extra operand " ++ quote extra) 1)

def dirname : Utility := fun _ call =>
  withFlags call [{ letter := 'z', word := "zero" }] true 1 (fun given =>
    let stop := if given.has 'z' then '\x00' else '\n'
    if given.others.isEmpty then misuse call "missing operand" 1
    else emit call (given.others.flatMap (fun path => (parentPath path).toList ++ [stop])) 0)

/-! ### Where paths lead -/

inductive Presence
  | all
  | most
  | nothing
  deriving DecidableEq, Repr

/-- The steps of a path from a directory, without those that stay in place or go back. -/
def plainSteps (start : List String) (path : String) : List String :=
  (Path.steps path).foldl
    (fun steps step => if step = ".." then steps.dropLast else steps ++ [step]) start

/-- Where a path leads, as a path without steps that stay in place or go back. -/
def leadsTo (p : Process) (presence : Presence) (path : String) : Except SystemError String := do
  match p.place path true with
  | .ok loc =>
    if presence = .all && (p.disk.find? loc).isNone then throw .notFound
    else pure (Process.pathOfLocation loc)
  | .error e =>
    if presence != .nothing || path = "" then throw e
    else
      let start := if path.startsWith "/" then [] else p.disk.current.reverse.map Process.ofPath
      pure ("/" ++ String.intercalate "/" (plainSteps start path))

/-- The path that is written for where paths lead, as the options ask for it. -/
def presenceOf (given : Given) (otherwise : Presence) : Presence :=
  match given.last? "fem" with
  | some 'f' => .most
  | some 'e' => .all
  | some _ => .nothing
  | none => otherwise

def readlink : Utility := fun _ call =>
  withFlags call
    [{ letter := 'f', word := "canonicalize" }, { letter := 'e', word := "canonicalize-existing" },
     { letter := 'm', word := "canonicalize-missing" }, { letter := 'n', word := "no-newline" },
     { letter := 'q', word := "quiet" }, { letter := 's', word := "silent" },
     { letter := 'v', word := "verbose" }, { letter := 'z', word := "zero" }] true 1
    (fun given => do
      let stop := if given.has 'z' then ['\x00']
        else if given.has 'n' && given.others.length = 1 then [] else ['\n']
      let step (code : Nat) (path : String) : StateM Process Nat := do
        let p ← get
        let result : Except SystemError String :=
          if given.hasAny "fem" then leadsTo p (presenceOf given .most) path
          else do
            let (loc, _) ← p.locateNode path false
            match p.linkAt? loc with
            | some target => pure (Process.ofPath target)
            | none => throw .invalidArgument
        match result with
        | .ok target =>
          put (target.toList ++ stop)
          pure code
        | .error e =>
          if given.has 'v' then fileFault call path e
          pure 1
      if given.others.isEmpty then misuse call "missing operand" 1
      else exited (← given.others.foldlM step 0))

def relativeTo : List String → List String → String
  | a :: base, b :: target =>
    if a = b then relativeTo base target
    else String.intercalate "/" ((a :: base).map (fun _ => "..") ++ b :: target)
  | [], [] => "."
  | base, target => String.intercalate "/" (base.map (fun _ => "..") ++ target)

def realpath : Utility := fun _ call =>
  withFlags call
    [{ letter := 'e', word := "canonicalize-existing" },
     { letter := 'm', word := "canonicalize-missing" }, { letter := 'q', word := "quiet" },
     { letter := 's', word := "no-symlinks" }, { letter := 'L', word := "logical" },
     { letter := 'P', word := "physical" }, { letter := 'z', word := "zero" },
     { letter := 'R', word := "relative-to", taking := .argument, isShort := false },
     { letter := 'B', word := "relative-base", taking := .argument, isShort := false }] true 1
    (fun given => do
      let stop := if given.has 'z' then '\x00' else '\n'
      let start ← get
      let base := (given.value? 'R').bind (fun dir => (leadsTo start .most dir).toOption)
      let step (code : Nat) (path : String) : StateM Process Nat := do
        let p ← get
        let start := if path.startsWith "/" then [] else p.disk.current.reverse.map Process.ofPath
        let result : Except SystemError String :=
          if given.has 's' && path != "" then
            .ok ("/" ++ String.intercalate "/" (plainSteps start path))
          else leadsTo p (presenceOf given .most) path
        match result with
        | .ok target =>
          let shown := match base with
            | some base => relativeTo (Path.steps base) (Path.steps target)
            | none => target
          put (shown.toList ++ [stop])
          pure code
        | .error e =>
          if !given.has 'q' then fileFault call path e
          pure 1
      if given.others.isEmpty then misuse call "missing operand" 1
      else exited (← given.others.foldlM step 0))

def pwd : Utility := fun _ call =>
  withFlags call
    [{ letter := 'L', word := "logical" }, { letter := 'P', word := "physical" }] true 1
    (fun given => do
      let p ← get
      let here := Process.pathOfLocation p.disk.current
      let named := (p.value? "PWD").getD ""
      let isSame := named.startsWith "/" &&
        (p.locateDirectory named).toOption = some p.disk.current
      emit call ((if given.last? "LP" = some 'L' && isSame then named else here) ++ "\n").toList 0)

/-! ### New names -/

/-- A name in which the last run of marks was exchanged for digits of a number. -/
def filled (name : List Char) (n : Nat) : List Char :=
  let after := (name.reverse.takeWhile (fun c => c != 'X')).reverse
  let before := name.take (name.length - after.length)
  let marks := before.reverse.takeWhile (fun c => c = 'X')
  let digits := (Decimal.digits n).leftpad marks.length '0'
  before.take (before.length - marks.length) ++ digits.drop (digits.length - marks.length) ++ after

def mktemp : Utility := fun _ call =>
  withFlags call
    [{ letter := 'd', word := "directory" }, { letter := 'u', word := "dry-run" },
     { letter := 'q', word := "quiet" }, { letter := 't' },
     { letter := 'p', word := "tmpdir", taking := .argument },
     { letter := 'S', word := "suffix", taking := .argument, isShort := false }] true 1
    (fun given => do
      let p ← get
      let usual := match p.value? "TMPDIR" with
        | some dir => if dir = "" then "/tmp" else dir
        | none => "/tmp"
      match given.others with
      | _ :: _ :: _ => misuse call "too many templates" 1
      | others =>
        let named := others.headD "tmp.XXXXXXXXXX"
        let ending := (given.value? 'S').getD ""
        let after := (named.toList.reverse.takeWhile (fun c => c != 'X')).reverse
        let marks := ((named.toList.reverse.drop after.length).takeWhile (fun c => c = 'X')).length
        if marks < 3 then fail call ("too few X's in template " ++ quote named) 1
        else
          let dir := match given.value? 'p' with
            | some dir => some (if dir = "" then usual else dir)
            | none => if given.has 't' || others.isEmpty then some usual else none
          let full := match dir with
            | some dir => inDirectory dir (named ++ ending)
            | none => named ++ ending
          let name (n : Nat) : String :=
            String.ofList (filled full.toList (4096173 + 7919 * n))
          let isFree (n : Nat) : Bool := (p.locateNode (name n) false).toOption.isNone
          let path := name (((List.range 1000).find? isFree).getD 0)
          let result : Except SystemError Process := do
            if given.has 'u' then pure p
            else
              let loc ← p.place path false
              if given.has 'd' then p.makeDirectoryAt loc 0o700
              else pure ((← p.createAt loc).setMode loc 0o600)
          match result with
          | .ok p =>
            set p
            emit call (path ++ "\n").toList 0
          | .error e =>
            let what := if given.has 'd' then "directory" else "file"
            if given.has 'q' then exited 1
            else fail call ("failed to create " ++ what ++ " via template " ++ quote full ++ ": " ++
              e.wording) 1)

end BuoyGateway.Shell.Utility
