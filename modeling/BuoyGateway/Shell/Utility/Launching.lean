import BuoyGateway.Shell.Utility.Saying

/-!
# Utilities that run programs

They change what a program gets to see, bound its time, or give it arguments that were read.
-/

namespace BuoyGateway.Shell.Utility

/-! ### Variables -/

/-- Gives a variable that programs get to see a value; a new one comes last. -/
def setVisible (bindings : List (String × Variable)) (name value : String) :
    List (String × Variable) :=
  let v : Variable := { value := some value, exported := true }
  if (bindings.lookup name).isSome then
    bindings.map (fun (e : String × Variable) => if e.1 = name then (name, v) else e)
  else bindings ++ [(name, v)]

def listVisible (call : Call) (stop : Char) : StateM Process Outcome := do
  let line (e : String × Variable) : List Char :=
    (e.1 ++ "=" ++ e.2.value.getD "").toList ++ [stop]
  emit call ((← get).bindings.flatMap line) 0

def runOr (run : Runner) (call : Call) (what name : String) (arguments : List String) :
    StateM Process Outcome := do
  match ← run name arguments with
  | .refused e =>
    fail call (what ++ quote name ++ ": " ++ e.wording) (if isMissing e then 127 else 126)
  | outcome => pure outcome

def env : Utility := fun run call =>
  withFlags call
    [{ letter := 'i', word := "ignore-environment" },
     { letter := 'u', word := "unset", taking := .argument },
     { letter := 'C', word := "chdir", taking := .argument },
     { letter := '0', word := "null" }] false 125
    (fun given => do
      let others := given.others
      let (empty, others) :=
        if others.head? = some "-" then (true, others.drop 1) else (given.has 'i', others)
      let values := others.takeWhile (fun a => a.contains '=')
      let rest := others.drop values.length
      let all := (← get).bindings
      let kept := (if empty then [] else all).filter (fun e => !(given.values 'u').contains e.1)
      let bindings := values.foldl
        (fun (bindings : List (String × Variable)) a =>
          setVisible bindings (nameAndValue a).1 ((nameAndValue a).2.getD ""))
        kept
      modify (fun p => { p with bindings })
      let p ← get
      let moved : Except SystemError Process := match given.value? 'C' with
        | none => .ok p
        | some path => do
          let loc ← p.locateDirectory path
          pure { p with disk := { p.disk with current := loc } }
      match moved with
      | .error e =>
        fail call ("cannot change directory to " ++ quoteName ((given.value? 'C').getD "") ++
          ": " ++ e.wording) 125
      | .ok p =>
        set p
        match rest with
        | [] => listVisible call (if given.has '0' then '\x00' else '\n')
        | name :: arguments => runOr run call "" name arguments)

def printenv : Utility := fun _ call =>
  withFlags call [{ letter := '0', word := "null" }] false 2 (fun given => do
    let stop := if given.has '0' then '\x00' else '\n'
    if given.others.isEmpty then listVisible call stop
    else
      let p ← get
      let values := given.others.map p.value?
      emit call (values.flatMap (fun v => match v with
        | some v => v.toList ++ [stop]
        | none => [])) (if values.all Option.isSome then 0 else 1))

/-! ### Programs as they are -/

def nohup : Utility := fun run call =>
  withFlags call [] false 125 (fun given => do
    match given.others with
    | [] => misuse call "missing operand" 125
    | name :: arguments =>
      modify (fun p => { p with traps := (1, "") :: p.traps })
      runOr run call "failed to run command " name arguments)

def nice : Utility := fun run call =>
  withFlags call [{ letter := 'n', word := "adjustment", taking := .argument }] false 125
    (fun given =>
      match given.others with
      | [] => emit call ['0', '\n'] 0
      | name :: arguments => runOr run call "" name arguments)

/-- Runs a program that is no longer part of the group it was started from. -/
def setsid : Utility := fun run call =>
  withFlags call
    [{ letter := 'c', word := "ctty" }, { letter := 'f', word := "fork" },
     { letter := 'w', word := "wait" }] false 1
    (fun given => do
      match given.others with
      | [] => misuse call "no command specified" 1
      | name :: arguments =>
        match ← run name arguments with
        | .refused e =>
          fail call ("failed to execute " ++ name ++ ": " ++ e.wording)
            (if isMissing e then 127 else 126)
        | outcome => pure outcome)

/-- Runs a program whose streams may hold back as much as was asked for. What a program writes is
the same however much is held back. -/
def stdbuf : Utility := fun run call =>
  withFlags call
    [{ letter := 'i', word := "input", taking := .argument },
     { letter := 'o', word := "output", taking := .argument },
     { letter := 'e', word := "error", taking := .argument }] false 125
    (fun given => do
      let isMode (mode : String) : Bool := mode = "L" || (size? mode).isSome
      match given.flags.find? (fun f => (f.1 = 'i' && f.2 = "L") || !isMode f.2) with
      | some ('i', "L") => misuse call "line buffering stdin is meaningless" 125
      | some (_, mode) => fail call ("invalid mode " ++ quote mode) 125
      | none =>
        match given.others with
        | [] => misuse call "missing operand" 125
        | name :: arguments =>
          if given.flags.isEmpty then misuse call "you must specify a buffering mode option" 125
          else runOr run call "failed to run command " name arguments)

def timeout : Utility := fun run call =>
  withFlags call
    [{ letter := 's', word := "signal", taking := .argument },
     { letter := 'k', word := "kill-after", taking := .argument },
     { letter := 'v', word := "verbose" },
     { letter := 'F', word := "foreground", isShort := false },
     { letter := 'P', word := "preserve-status", isShort := false }] false 125
    (fun given => do
      match given.others with
      | time :: name :: arguments =>
        match interval? time, Signal.ofText? 1 ((given.value? 's').getD "TERM") with
        | none, _ => misuse call (badInterval time) 125
        | _, none =>
          misuse call (quote ((given.value? 's').getD "") ++ ": invalid signal") 125
        | some limit, some signal =>
          let before ← get
          let child := before.world.lastProcess + 1
          let outcome ← runOr run call "failed to run command " name arguments
          let after ← get
          let due := before.clock + limit
          if limit = 0 || after.clock < due then pure outcome
          else
            let sending : Sending := ⟨due, child, signal⟩
            set { after with world := { after.world with
              belated := sending :: after.world.belated } }
            match outcome with
            | .killed 9 => pure (.killed 9)
            | .killed signal => exited (if given.has 'P' then 128 + signal else 124)
            | .exited code => exited (if given.has 'P' then code else 124)
            | .refused _ => exited 124
      | _ =>
        modify (fun p =>
          p.say 2 ("Try '" ++ call.name ++ " --help' for more information.\n").toList)
        exited 125)

def which : Utility := fun _ call =>
  withFlags call (plainFlags "as") false 1 (fun given => do
    let p ← get
    let isProgram (path : String) : Bool :=
      match p.locateNode path true with
      | .ok (loc, node) => !node.isDirectory && p.modeAt loc node &&& 0o111 != 0
      | .error _ => false
    let found (name : String) : List String :=
      if name.contains '/' then [name].filter isProgram
      else
        let all := (pathsIn (p.searchPath.getD "") name).filter isProgram
        if given.has 'a' then all else all.take 1
    let results := given.others.map found
    let text := if given.has 's' then "" else
      String.join (results.flatten.map (fun path => path ++ "\n"))
    let isWhole := !results.isEmpty && results.all (fun r => !r.isEmpty)
    emit call text.toList (if isWhole then 0 else 1))

/-! ### Programs with arguments that were read -/

/-- Words of a text in which quotes and backslashes have a meaning, up to a quote that is not
closed, and what is said about that. Each step takes at least one character. -/
def quotedWords : Nat → Option (List Char) → List (List Char) → List Char →
    List (List Char) × Option String
  | 0, _, done, _ => (done.reverse, none)
  | fuel + 1, word, done, s =>
    let close : List (List Char) := match word with
      | some w => w.reverse :: done
      | none => done
    let grown (cs : List Char) : Option (List Char) := some (cs.reverse ++ word.getD [])
    match s with
    | [] => (close.reverse, none)
    | '\\' :: c :: rest => quotedWords fuel (grown [c]) done rest
    | ['\\'] => (close.reverse, none)
    | c :: rest =>
      if c = '\'' || c = '"' then
        let inner := rest.takeWhile (fun d => d != c)
        match rest.drop inner.length with
        | [] => (done.reverse, some ("unmatched " ++ (if c = '"' then "double" else "single") ++
            " quote; by default quotes are special to xargs unless you use the -0 option"))
        | _ :: rest => quotedWords fuel (grown inner) done rest
      else if c = ' ' || c = '\t' || c = '\n' then quotedWords fuel none close rest
      else quotedWords fuel (grown [c]) done rest

def chunks {α : Type} (n : Nat) : Nat → List α → List (List α)
  | 0, _ => []
  | fuel + 1, l =>
    if l.isEmpty then [] else l.take n :: chunks n fuel (l.drop n)

/-- A text with another one in each place where a mark is. Each step takes at least one
character. -/
def substituted (mark new : List Char) : Nat → List Char → List Char
  | 0, s => s
  | fuel + 1, s =>
    if !mark.isEmpty && mark.isPrefixOf s then
      new ++ substituted mark new fuel (s.drop mark.length)
    else
      match s with
      | [] => []
      | c :: rest => c :: substituted mark new fuel rest

def runAll (run : Runner) (call : Call) (traced : Bool) :
    Nat → List (List String) → StateM Process Outcome
  | code, [] => exited code
  | code, words :: rest => do
    match words with
    | [] => exited code
    | name :: arguments =>
      if traced then putError (String.intercalate " " words ++ "\n")
      match ← run name arguments with
      | .refused e =>
        fail call (name ++ ": " ++ e.wording) (if isMissing e then 127 else 126)
      | .killed signal =>
        fail call (name ++ ": terminated by signal " ++ numeral signal) 125
      | .exited 0 => runAll run call traced code rest
      | .exited 255 => fail call (name ++ ": exited with status 255; aborting") 124
      | .exited _ => runAll run call traced 123 rest

def xargs : Utility := fun run call =>
  withFlags call
    [{ letter := 'n', word := "max-args", taking := .argument },
     { letter := 'L', word := "max-lines", taking := .argument },
     { letter := 'I', taking := .argument },
     { letter := 'i', word := "replace", taking := .attached },
     { letter := 'd', word := "delimiter", taking := .argument },
     { letter := 's', word := "max-chars", taking := .argument },
     { letter := 'P', word := "max-procs", taking := .argument },
     { letter := 'a', word := "arg-file", taking := .argument },
     { letter := 'E', taking := .argument },
     { letter := '0', word := "null" },
     { letter := 'r', word := "no-run-if-empty" },
     { letter := 't', word := "verbose" },
     { letter := 'x', word := "exit" }] false 1
    (fun given => do
      let command := if given.others.isEmpty then ["echo"] else given.others
      let input ← readFile ((given.value? 'a').getD "-")
      let text := input.toOption.getD []
      if (given.value? 'a').isNone then modify (fun p => p.openStream 0 .nothing)
      let mark := match given.value? 'I', given.value? 'i' with
        | some m, _ => some m
        | none, some m => some (if m = "" then "\x7b\x7d" else m)
        | none, none => none
      let delimiter : Option Char :=
        if given.has '0' then some '\x00'
        else (given.value? 'd').map (fun s =>
          match s.toList with
          | '\\' :: 'n' :: _ => '\n'
          | '\\' :: 't' :: _ => '\t'
          | '\\' :: '0' :: _ => '\x00'
          | c :: _ => c
          | [] => '\n')
      let (items, fault) : List (List Char) × Option String := match delimiter with
        | some c =>
          let parts := partsBy (fun d => d = c) text
          (if parts.getLast? = some [] then parts.dropLast else parts, none)
        | none =>
          if mark.isSome || given.has 'L' then
            ((lines text).filterMap (fun l =>
              let l := l.dropWhile (fun c => c = ' ' || c = '\t')
              if l.isEmpty then none else some l), none)
          else quotedWords (text.length + 1) none [] text
      let badNumber := ['n', 'L', 's', 'P'].find? (fun c =>
        (given.value? c).any (fun v => (nat? v).isNone))
      match badNumber with
      | some c =>
        misuse call ("invalid number \"" ++ (given.value? c).getD "" ++ "\" for -" ++
          String.singleton c ++ " option") 1
      | none =>
        let texts := items.map String.ofList
        let number (c : Char) : Option Nat := (given.value? c).bind nat?
        let runs : List (List String) := match mark with
          | some m =>
            items.map (fun item => command.map (fun a =>
              String.ofList (substituted m.toList item (a.length + 1) a.toList)))
          | none =>
            let groups : List (List String) := match number 'n', number 'L' with
              | some n, _ => chunks (max n 1) (texts.length + 1) texts
              | none, some n =>
                (chunks (max n 1) (items.length + 1) items).map (fun ls =>
                  (ls.flatMap words).map String.ofList)
              | none, none => chunks 4096 (texts.length + 1) texts
            let groups := if groups.isEmpty && !given.has 'r' then [[]] else groups
            groups.map (fun g => command ++ g)
        match fault with
        | some e => complain call e
        | none => pure ()
        runAll run call (given.has 't') (if fault.isSome then 1 else 0) runs)

end BuoyGateway.Shell.Utility
