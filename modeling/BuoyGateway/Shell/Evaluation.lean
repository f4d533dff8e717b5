import BuoyGateway.Shell.Builtin
import BuoyGateway.Shell.Grammar
import BuoyGateway.Shell.Redirection
import BuoyGateway.Shell.Utility

/-!
# Evaluation of scripts

Scripts are run line by line. Processes that a script splits off are run to their end when they
begin, on clocks of their own. The fuel bounds how deep evaluation nests and how often a loop turns;
a process that uses it up is ended from outside, as a watchdog would.
-/

namespace BuoyGateway.Shell

structure Mode where
  /-- Something depends on whether the command fails, so that its failure is none of the script. -/
  tested : Bool := false
  /-- Nothing follows the command, so that the process may turn into a program. -/
  final : Bool := false

namespace Mode

def inner (mode : Mode) : Mode := { tested := mode.tested }

end Mode

namespace Process

/-! ### Times

In microseconds: until a process that was split off begins, until a program begins, and how much
later a process beside the shell begins than what follows in the script. -/

def forkTime : Nat := 300

def programTime : Nat := 700

def besideTime : Nat := 600

def fork (p : Process) (delay : Nat) : Process :=
  let number := p.world.lastProcess + 1
  { p with
    world := { p.world with lastProcess := number }
    clock := p.clock + delay
    readTo := 1
    numbers := number :: p.numbers
    traps := p.traps.filter (fun t => t.2 == "")
    neighbours := p.jobs.map (fun j => (j.process, j.ends)) ++ p.neighbours
    jobs := [] }

def asProgram (p : Process) : Process :=
  { disk := p.disk
    world := p.world
    clock := p.clock + programTime
    numbers := p.numbers
    shell := p.number
    parent := (p.numbers[1]?).getD p.parent
    bindings := p.exported
    ignored := (p.traps.filter (fun t => t.2 == "")).map Prod.fst ++ p.ignored
    neighbours := p.neighbours
    mask := p.mask
    descriptors := p.descriptors }

def conclude (p : Process) (flow : Flow) : Process :=
  match flow with
  | .killed signal =>
    let p :=
      if Signal.isTold signal then p.say 2 (Signal.obituary signal ++ "\n").toList else p
    { p.reap with status := 128 + signal }
  | _ => { p.reap with status := p.status % 256 }

end Process

/-- Finds the command of a stage, if it is a plain name, before the stage begins. -/
def Process.foreseeCommand (p : Process) (stage : Script) : Process :=
  match stage with
  | .simple _ _ ([.literal name] :: _) _ =>
    let name' := String.ofList name
    match isName name, Builtin.meaning p p.searchPath false name' with
    | true, .program path _ => p.track name' path
    | _, _ => p
  | _ => p

/-! ### Names of commands -/

/-- How a command is called: the fields that are known, the first of which is its name, those that
came before the name, and the words that are left. -/
structure Calling where
  fields : List String := []
  before : List String := []
  words : List (List Piece)
  plain : Bool := false
  standard : Bool := false
  /-- Whether a fault of the command ends the script, if it is known to be one of the shell. -/
  special : Option Bool := none
  declares : Bool := false

namespace Calling

def all (c : Calling) : List String := c.before ++ c.fields

/-- Whether a command of the shell is meant, and whether its faults end the script. -/
def builtin? (p : Process) (plain : Bool) (name : String) : Option Bool :=
  if Builtin.specialNames.contains name then some true
  else if !plain && (p.functions.lookup name).isSome then none
  else if Builtin.ordinaryNames.contains name then some false
  else none

variable (capture : Script → StateM Process (List Char))

def firstFields : List (List Piece) → Expansion (List String × List (List Piece))
  | [] => pure ([], [])
  | word :: words => do
    match ← Expansion.fields capture word with
    | [] => firstFields words
    | fields => pure (fields, words)

def refill (c : Calling) : Expansion Calling := do
  if c.fields.isEmpty then
    let (fields, words) ← firstFields capture c.words
    pure { c with fields, words }
  else pure c

def step (c : Calling) : Calling :=
  { c with fields := c.fields.drop 1, before := c.before ++ c.fields.take 1 }

/-- Steps over `command` and its options, if another command follows that is to be run. -/
def unprefixed : Nat → Calling → Expansion (Option Calling)
  | 0, _ => pure none
  | fuel + 1, c => do
    let c ← refill capture c
    match c.fields with
    | [] => pure none
    | a :: _ =>
      match a.toList with
      | ['-', '-'] =>
        let c ← refill capture c.step
        pure (if c.fields.isEmpty then none else some c)
      | '-' :: letters@(_ :: _) =>
        if letters.all (fun l => l = 'p') then unprefixed fuel { c.step with standard := true }
        else pure none
      | _ => pure (some c)

def resolve : Nat → Calling → Expansion Calling
  | 0, c => pure c
  | fuel + 1, c => do
    match c.fields with
    | [] => pure c
    | name :: _ =>
      match builtin? (← get) c.plain name with
      | none => pure c
      | some special =>
        let c := { c with
          special := some (c.special.getD special)
          declares := Builtin.withAssignments.contains name }
        if name != "command" then pure c
        else
          match ← unprefixed capture (fuel + 1) c.step with
          | some c => resolve fuel { c with plain := true }
          | none =>
            let rest ← Expansion.allFields capture c.words
            pure { c with fields := c.fields ++ rest, words := [] }

def declared (word : List Piece) : Expansion (List String) := do
  match assignment? word with
  | some (name, value) =>
    let v ← Expansion.text capture .colons value
    pure [name ++ "=" ++ v]
  | none => Expansion.fields capture word

def ofWords (words : List (List Piece)) : Expansion Calling := do
  let c ← refill capture { words }
  let c ← resolve capture (words.length + 1) c
  let rest ← c.words.mapM (if c.declares then declared capture else Expansion.fields capture)
  pure { c with fields := c.fields ++ rest.flatten, words := [] }

end Calling

/-- Gives variables the values of words; the texts of the assignments. In front of a command the
values are the own ones of that command, and programs get to see them. -/
def assignEach (capture : Script → StateM Process (List Char)) (own exported : Bool) :
    List (String × List Piece) → Expansion (List String)
  | [] => pure []
  | (name, word) :: rest => do
    let value ← Expansion.text capture .colons word
    let p ← get
    if p.isFixed name then Expansion.giveUp (name ++ ": is read only")
    else
      let p := if own then p.keepVariable name else p
      let p := p.assign name value
      set (if own || exported then
        p.changeVariable name (fun v => { v with exported := true }) else p)
      let texts ← assignEach capture own exported rest
      pure ((name ++ "=" ++ value) :: texts)

def callLimit : Nat := 1000

def exhausted : StateM Process Flow := pure (.killed Signal.watchdog)

/-- The end of a stage whose output others read: one that goes on for too long is ended when nobody
reads what it writes any more. -/
def unread : Flow → Flow
  | .killed signal => .killed (if signal = Signal.watchdog then Signal.brokenPipe else signal)
  | flow => flow

def startVariables (p : Process) : Process :=
  let inherited := match p.value? "PWD" with
    | some path =>
      if path.startsWith "/" && (p.locateDirectory path).toOption = some p.disk.current then
        some path
      else none
    | none => none
  let here := inherited.getD (Process.pathOfLocation p.disk.current)
  let given : List (String × String) :=
    [("IFS", " \t\n"), ("OPTIND", "1"), ("PS1", "# "), ("PS2", "> "), ("PS4", "+ "),
     ("PPID", Signal.numeral p.parent), ("PWD", here)]
  let given :=
    if p.searchPath.isSome then given else ("PATH", usualPath) :: given
  { given.foldl (fun (p : Process) (v : String × String) => p.assign v.1 v.2) p with here }

mutual

def capture : Nat → Script → StateM Process (List Char)
  | 0, _ => pure []
  | fuel + 1, script => do
    if script.isNothing then pure []
    else
      let outer ← get
      let (n, p) := (outer.fork Process.forkTime).addStream (.pipe [] [])
      set (p.connect 1 (some n))
      let flow ← run fuel { final := true } script
      let flow ← finish fuel flow
      let inner ← get
      let text := match inner.world.streams.lookup n with
        | some (.pipe front back) => (Process.chunksOf front back).flatMap Chunk.text
        | _ => []
      let p := ((outer.resume inner).dropStream n).conclude flow
      set { p with status := outer.status, outputStatus := p.status }
      let text := text.filter (fun c => c != '\x00')
      pure (text.reverse.dropWhile (fun c => c = '\n')).reverse

def attend : Nat → Flow → StateM Process Flow
  | 0, _ => exhausted
  | fuel + 1, flow => do
    let p ← get
    let due := p.due
    match p.fatal? with
    | some s =>
      set { p with clock := s.time }
      pure (.killed s.signal)
    | none =>
      if due.isEmpty || flow != .next then pure flow
      else
        let signals := (List.range Signal.count).filter (fun n => due.any (fun s => s.signal = n))
        let scripts := signals.filterMap (fun n =>
          match p.reaction n with
          | .attend script => some script
          | _ => none)
        let status := p.savedStatus.getD p.status
        set { signals.foldl Process.attended p with savedStatus := some status }
        let flow ← attendEach fuel status scripts
        modify (fun (q : Process) => { q with savedStatus := p.savedStatus })
        pure flow

def attendEach : Nat → Nat → List String → StateM Process Flow
  | 0, _, _ => exhausted
  | _ + 1, _, [] => pure .next
  | fuel + 1, status, script :: scripts => do
    match ← interpret fuel {} false script.toList with
    | .next =>
      modify (fun (p : Process) => { p with status })
      attendEach fuel status scripts
    | flow => pure flow

/-- The end of a process, for which it may have a script to run. -/
def finish : Nat → Flow → StateM Process Flow
  | 0, _ => exhausted
  | fuel + 1, flow => do
    let p ← get
    match flow, p.traps.lookup 0 with
    | .killed signal, _ => pure (.killed signal)
    | _, none | _, some "" => pure .leave
    | _, some script =>
      set { p with
        traps := p.traps.filter (fun t => t.1 != 0)
        savedStatus := some p.status
        loops := 0 }
      match ← interpret fuel {} false script.toList with
      | .killed signal => pure (.killed signal)
      | .leave | .failed => pure .leave
      | _ =>
        modify (fun (q : Process) => { q with status := p.status })
        pure .leave

/-- What follows any command: signals are attended to, and a failure may end the script. -/
def settle : Nat → Mode → Flow → StateM Process Flow
  | 0, _, _ => exhausted
  | fuel + 1, mode, flow => do
    match ← attend fuel flow with
    | .next =>
      let p ← get
      pure (if p.has .exitOnFailure && !mode.tested && p.status != 0 then .leave else .next)
    | flow => pure flow

def apart : Nat → Mode → Script → List Redirected → StateM Process Flow
  | 0, _, _, _ => exhausted
  | fuel + 1, mode, script, redirections => do
    let outer ← get
    if mode.final && !outer.hasTraps then
      if ← Redirected.makeAll (capture fuel) redirections then run fuel mode script
      else pure .leave
    else
      set (outer.fork Process.forkTime)
      let isMade ← Redirected.makeAll (capture fuel) redirections
      let flow ← if isMade then run fuel { mode with final := true } script else pure .leave
      let flow ← finish fuel flow
      modify (fun inner => (outer.resume inner).conclude flow)
      pure .next

def run : Nat → Mode → Script → StateM Process Flow
  | 0, _, _ => exhausted
  | fuel + 1, mode, script => do
    match ← attend fuel .next with
    | .next => perform fuel mode script
    | flow => pure flow

def perform : Nat → Mode → Script → StateM Process Flow
  | 0, _, _ => exhausted
  | fuel + 1, mode, script => do
    let at' (line : Nat) : StateM Process Unit := modify (fun (p : Process) => { p with line })
    if (← get).has .readOnly then pure .next
    else
      match script with
      | .simple line assignments words redirections =>
        at' line
        let flow ← simple fuel mode assignments words redirections
        settle fuel mode flow
      | .pipeline stages =>
        let flow ← pipeline fuel mode stages
        settle fuel mode flow
      | .negation body =>
        match ← run fuel { tested := true } body with
        | .next =>
          modify (fun (p : Process) => { p with status := if p.status = 0 then 1 else 0 })
          pure .next
        | flow => pure flow
      | .both first second =>
        match ← run fuel { tested := true } first with
        | .next => if (← get).status = 0 then run fuel mode second else pure .next
        | flow => pure flow
      | .either first second =>
        match ← run fuel { tested := true } first with
        | .next => if (← get).status = 0 then pure .next else run fuel mode second
        | flow => pure flow
      | .sequence steps => runAll fuel mode steps
      | .background line body =>
        at' line
        let flow ← background fuel body
        settle fuel mode flow
      | .subshell line body =>
        at' line
        let flow ← apart fuel mode body []
        settle fuel mode flow
      | .redirected line body redirections =>
        at' line
        match ← (redirections.mapM (Redirected.prepare (capture fuel))).run with
        | .error flow => pure flow
        | .ok made =>
          match body with
          | .subshell _ body =>
            let flow ← apart fuel mode body made
            settle fuel mode flow
          | body =>
            let before ← get
            if ← Redirected.makeAll (capture fuel) made then
              let flow ← run fuel mode.inner body
              modify (Redirected.takeBack before (made.map Redirected.descriptor))
              pure flow
            else settle fuel mode .next
      | .conditional test yes no =>
        match ← run fuel { tested := true } test with
        | .next =>
          if (← get).status = 0 then run fuel mode yes
          else if no.isNothing then Builtin.done 0
          else run fuel mode no
        | flow => pure flow
      | .loop whileFails test body =>
        modify (fun (p : Process) => { p with loops := p.loops + 1 })
        let flow ← (fun p => turns fuel mode.inner whileFails test body 0 p : StateM Process Flow)
        modify (fun (p : Process) => { p with loops := p.loops - 1 })
        pure flow
      | .each line name words body =>
        at' line
        let words ← (match words with
          | none => do pure (.ok (← get).arguments)
          | some words => (Expansion.allFields (capture fuel) words).run :
            StateM Process (Except Flow (List String)))
        match words with
        | .error flow => pure flow
        | .ok values =>
          modify (fun (p : Process) => { p with loops := p.loops + 1 })
          let flow ← (fun p => eachTurn fuel mode.inner name body 0 values p :
            StateM Process Flow)
          modify (fun (p : Process) => { p with loops := p.loops - 1 })
          pure flow
      | .choice line word branches =>
        at' line
        match ← (Expansion.text (capture fuel) .front word).run with
        | .error flow => pure flow
        | .ok subject => choose fuel mode subject.toList branches
      | .define name body =>
        modify (fun (p : Process) => { p with
          functions := (name, body) :: p.functions.filter (fun f => f.1 != name) })
        Builtin.done 0

def runAll : Nat → Mode → List Script → StateM Process Flow
  | 0, _, _ => exhausted
  | _ + 1, _, [] => pure .next
  | fuel + 1, mode, [step] => run fuel mode step
  | fuel + 1, mode, step :: steps => do
    match ← run fuel mode.inner step with
    | .next => runAll fuel mode steps
    | flow => pure flow

/-- The turns of a loop; `last` is the status of the last turn. -/
def turns : Nat → Mode → Bool → Script → Script → Nat → Process → Flow × Process
  | 0, _, _, _, _, _, p => (.killed Signal.watchdog, p)
  | fuel + 1, mode, whileFails, test, body, last, p =>
    match run fuel { tested := true } test p with
    | (.next, p) =>
      if (p.status = 0) = whileFails then (.next, { p with status := last })
      else
        match run fuel mode body p with
        | (.next, p) | (.again 1, p) => turns fuel mode whileFails test body p.status p
        | (.again (n + 1), p) => (.again n, p)
        | (.stop 1, p) => (.next, p)
        | (.stop (n + 1), p) => (.stop n, p)
        | (flow, p) => (flow, p)
    | (.again 1, p) => turns fuel mode whileFails test body last p
    | (.again (n + 1), p) => (.again n, p)
    | (.stop 1, p) => (.next, { p with status := last })
    | (.stop (n + 1), p) => (.stop n, p)
    | (flow, p) => (flow, p)

/-- A turn of a loop for each value; `last` is the status of the last turn. -/
def eachTurn : Nat → Mode → String → Script → Nat → List String → Process → Flow × Process
  | 0, _, _, _, _, _, p => (.killed Signal.watchdog, p)
  | _ + 1, _, _, _, last, [], p => (.next, { p with status := last })
  | fuel + 1, mode, name, body, _, value :: values, p =>
    match Builtin.assign name value p with
    | (.next, p) =>
      match run fuel mode body p with
      | (.next, p) | (.again 1, p) => eachTurn fuel mode name body p.status values p
      | (.again (n + 1), p) => (.again n, p)
      | (.stop 1, p) => (.next, p)
      | (.stop (n + 1), p) => (.stop n, p)
      | (flow, p) => (flow, p)
    | (flow, p) => (flow, p)

def choose : Nat → Mode → List Char → List (List (List Piece) × Script) → StateM Process Flow
  | 0, _, _, _ => exhausted
  | _ + 1, _, _, [] => Builtin.done 0
  | fuel + 1, mode, subject, ([], _) :: branches => choose fuel mode subject branches
  | fuel + 1, mode, subject, (pattern :: patterns, body) :: branches => do
    match ← (Expansion.atoms (capture fuel) {} true pattern).run with
    | .error flow => pure flow
    | .ok parts =>
      if Pattern.matchesAll (Pattern.ofGlyphs (Field.glyphs parts)) subject then
        if body.isNothing then Builtin.done 0 else run fuel mode body
      else choose fuel mode subject ((patterns, body) :: branches)

def pipeline : Nat → Mode → List Script → StateM Process Flow
  | 0, _, _ => exhausted
  | fuel + 1, mode, stages => do
    let outer ← get
    let _ ← stagesFrom fuel mode (outer.clock + Process.forkTime) none stages
    modify (fun (p : Process) => { p with descriptors := outer.descriptors })
    pure .next

/-- Runs the stages of a pipeline from the same time on, each of which reads what the one before has
written; the time when the last of them ends. -/
def stagesFrom : Nat → Mode → Nat → Option Nat → List Script → StateM Process (Flow × Nat)
  | 0, _, begins, _, _ => pure (.killed Signal.watchdog, begins)
  | _ + 1, _, begins, _, [] => pure (.next, begins)
  | fuel + 1, mode, begins, input, stage :: stages => do
    modify (fun p => p.foreseeCommand stage)
    let outer ← get
    let p := outer.fork 0
    let p := { p with clock := begins }
    let p := match input with
      | some n => p.connect 0 (some n)
      | none => p
    let (n, p) :=
      if stages.isEmpty then (0, p)
      else
        let (n, p) := p.addStream (.pipe [] [])
        (n, p.connect 1 (some n))
    set p
    let flow ← run fuel { mode with final := true } stage
    let flow ← finish fuel (if stages.isEmpty then flow else unread flow)
    modify (fun inner => (outer.resume inner).conclude flow)
    if stages.isEmpty then pure (flow, (← get).clock)
    else
      let ends := (← get).clock
      modify (fun (p : Process) => { p with status := outer.status })
      let (flow, others) ← stagesFrom fuel mode begins (some n) stages
      modify (fun (p : Process) => { p.dropStream n with clock := max ends others })
      pure (flow, max ends others)

def background : Nat → Script → StateM Process Flow
  | 0, _ => exhausted
  | fuel + 1, body => do
    let outer ← get
    let beside (p : Process) : Process :=
      { p with ignored := 2 :: 3 :: p.ignored }
    let join (flow : Flow) (process stages : Nat) : StateM Process Unit := do
      let inner ← get
      let signal := match flow with
        | .killed signal => some signal
        | _ => none
      let status := match signal with
        | some signal => 128 + signal
        | none => inner.status % 256
      let p := { outer.resume inner with clock := outer.clock + Process.forkTime, status := 0 }
      set (p.addJob
        { index := 0, process, ends := inner.clock, status, signal, stages })
    match body with
    | .pipeline stages =>
      let (n, p) := outer.addStream .nothing
      set (beside p)
      let (flow, _) ←
        stagesFrom fuel {} (outer.clock + Process.besideTime) (some n) stages
      join flow (← get).world.lastProcess stages.length
      pure .next
    | body =>
      let (body, redirections) := match body with
        | .redirected _ body redirections => (body, redirections)
        | body => (body, [])
      match ← (redirections.mapM (Redirected.prepare (capture fuel))).run with
      | .error flow => pure flow
      | .ok made =>
        modify (fun p => beside ((p.fork Process.besideTime).openStream 0 .nothing))
        let number := (← get).number
        let isMade ← Redirected.makeAll (capture fuel) made
        let flow ← if isMade then run fuel { final := true } body else pure .leave
        let flow ← finish fuel flow
        join flow number 1
        pure .next

def simple : Nat → Mode → List (String × List Piece) → List (List Piece) → List Redirection →
    StateM Process Flow
  | 0, _, _, _, _ => exhausted
  | fuel + 1, mode, assignments, words, redirections => do
    modify (fun (p : Process) => { p with outputStatus := 0 })
    match ← (Calling.ofWords (capture fuel) words).run with
    | .error flow => pure flow
    | .ok calling =>
      let lasting := calling.fields.isEmpty || calling.special = some true
      if !lasting then modify Process.enterScope
      let flow ← called fuel mode calling lasting assignments redirections
      if !lasting then modify Process.leaveScope
      pure flow

def called : Nat → Mode → Calling → Bool → List (String × List Piece) → List Redirection →
    StateM Process Flow
  | 0, _, _, _, _, _ => exhausted
  | fuel + 1, mode, calling, lasting, assignments, redirections => do
    let isExec := calling.special.isSome && calling.fields.head? = some "exec"
    match ← (redirections.mapM (Redirected.prepare (capture fuel))).run with
    | .error flow => pure flow
    | .ok made =>
      let before ← get
      let changed := made.map Redirected.descriptor
      if !(← Redirected.makeAll (capture fuel) made) then
        pure (if calling.special = some true then .failed else .next)
      else
        let exported := isExec && 1 < calling.fields.length
        let flow ← (do
          match ← (assignEach (capture fuel) (!lasting) exported assignments).run with
          | .error flow => pure flow
          | .ok texts =>
            let p ← get
            if p.has .trace && !p.tracing then
              trace fuel before (texts ++ calling.all)
            invoke fuel mode calling : StateM Process Flow)
        if !(isExec && flow = .next) then modify (Redirected.takeBack before changed)
        pure flow

/-- Shows a command before it is carried out, where the shell complained before its redirections. -/
def trace : Nat → Process → List String → StateM Process Unit
  | 0, _, _ => pure ()
  | fuel + 1, before, texts => do
    let p ← get
    let errors := p.descriptors.lookup 2
    set { p.connect 2 (before.descriptors.lookup 2) with tracing := true }
    let source := ((p.value? "PS4").getD "").toList
    let lead ← (match Grammar.quotedText source with
      | .ok pieces => do
        match ← (Expansion.text (capture fuel) .none pieces).run with
        | .ok s => pure s
        | .error _ => pure ""
      | .error _ => pure "" : StateM Process String)
    let line := lead ++ String.intercalate " " texts ++ "\n"
    modify (fun (q : Process) => { (q.say 2 line.toList).connect 2 errors with tracing := false })

def invoke : Nat → Mode → Calling → StateM Process Flow
  | 0, _, _ => exhausted
  | fuel + 1, mode, calling => do
    let p ← get
    match calling.fields with
    | [] => Builtin.done p.outputStatus
    | name :: arguments =>
      if (Calling.builtin? p calling.plain name).isSome then
        modify (fun (q : Process) => { q with context := some name })
        let flow ← builtin fuel mode name arguments
        modify (fun (q : Process) => { q with context := p.context })
        pure (if flow = .failed && calling.special != some true then .next else flow)
      else
        match if calling.plain then none else p.functions.lookup name with
        | some body =>
          if p.calls = callLimit then
            Builtin.abort ("Maximum function recursion depth (" ++ Signal.numeral callLimit ++
              ") reached")
          else
            set { p with
              arguments, optionPlace := (1, none), loops := 0, calls := p.calls + 1 }
            let flow ← run fuel mode.inner body
            modify (fun (q : Process) => { q with
              arguments := p.arguments, optionPlace := p.optionPlace, loops := p.loops
              calls := p.calls })
            pure (if flow = .back then .next else flow)
        | none =>
          let search := if calling.standard then some standardPath else p.searchPath
          external fuel mode search name arguments

def builtin : Nat → Mode → String → List String → StateM Process Flow
  | 0, _, _, _ => exhausted
  | fuel + 1, mode, name, arguments => do
    match name, arguments with
    | "eval", [] | ".", [] | "exec", [] => Builtin.done 0
    | "eval", arguments =>
      interpret fuel mode.inner false (String.intercalate " " arguments).toList
    | "exec", name :: arguments =>
      let p ← get
      become fuel p.searchPath name arguments
    | ".", arguments =>
      Builtin.withOptions "" arguments (fun _ rest => do
        match rest with
        | [] => Builtin.done 0
        | name :: _ => do
          let p ← get
          let isFile (path : String) : Bool := (p.node? path).any (fun n => !n.isDirectory)
          let path :=
            if name.contains '/' then some name
            else (pathsIn (p.searchPath.getD "") name).find? isFile
          match path with
          | none => Builtin.abort (name ++ ": not found")
          | some path =>
            match p.openPath .reading path with
            | .error e => Builtin.abort (Redirected.openingFault .reading path e)
            | .ok _ =>
              let text := match p.locate path with
                | .ok loc => (p.readPlace loc).toOption.getD []
                | .error _ => []
              modify (fun (p : Process) => { p with context := some path })
              match ← interpret fuel {} true text with
              | .back => pure .next
              | flow => pure flow)
    | name, arguments =>
      match Builtin.special? name, Builtin.ordinary? name with
      | some command, _ | none, some command => command arguments
      | none, none => Builtin.done 127

def external : Nat → Mode → Option String → String → List String → StateM Process Flow
  | 0, _, _, _, _ => exhausted
  | fuel + 1, mode, search, name, arguments => do
    let p ← get
    match findProgram p search name with
    | .nothing e =>
      set (p.complain (name ++ ": " ++ (launchFault e).1))
      Builtin.done 127
    | .path path =>
      if !name.contains '/' && search = p.searchPath then set (p.track name path)
      let outer ← get
      if mode.final && !outer.hasTraps then become fuel search name arguments
      else
        set (outer.fork Process.forkTime)
        let flow ← become fuel search name arguments
        modify (fun inner => (outer.resume inner).conclude flow)
        pure .next

def become : Nat → Option String → String → List String → StateM Process Flow
  | 0, _, _, _ => exhausted
  | fuel + 1, search, name, arguments => do
    let p ← get
    match runProgram p search name arguments with
    | .error e =>
      let (text, code) := launchFault e
      set { p.complain (name ++ ": " ++ text) with status := code }
      pure .leave
    | .ok call =>
      set p.asProgram
      program fuel call

def launched : Nat → String → List String → StateM Process Outcome
  | 0, _, _ => pure (.killed Signal.watchdog)
  | fuel + 1, name, arguments => do
    let outer ← get
    match runProgram outer (some (outer.searchPath.getD standardPath)) name arguments with
    | .error e => pure (.refused e)
    | .ok call =>
      set (outer.fork 0).asProgram
      let flow ← program fuel call
      modify outer.resume
      match flow with
      | .killed signal => pure (.killed signal)
      | _ => pure (.exited ((← get).status % 256))

def program : Nat → Call → StateM Process Flow
  | 0, _ => exhausted
  | fuel + 1, call => do
    if call.utility = "sh" then shell fuel call.name call.arguments
    else
      match Utility.named? call.utility with
      | none =>
        modify (fun (p : Process) => { p with status := 127 })
        pure .leave
      | some work =>
        match ← work (fun name arguments => launched fuel name arguments) call with
        | .killed signal => pure (.killed signal)
        | .exited code =>
          modify (fun (p : Process) => { p with status := code })
          attend fuel .leave
        | .refused _ =>
          modify (fun (p : Process) => { p with status := 126 })
          pure .leave

/-- Runs the shell with arguments: a script in an argument or in a file, or what can be read. -/
def shell : Nat → String → List String → StateM Process Flow
  | 0, _, _ => exhausted
  | fuel + 1, own, arguments => do
    modify (fun p => startVariables { p with name := own })
    let refuse (text : String) (code : Nat) : StateM Process Flow := do
      modify (fun (p : Process) => { p.complain text with status := code })
      pure .leave
    match Builtin.switches true (← get) arguments with
    | .error (e, p) =>
      set p
      refuse e 2
    | .ok (p, rest) =>
      let rest := rest.getD []
      let options := arguments.take (arguments.length - rest.length)
      let isCommand := options.any (fun a =>
        (a.startsWith "-" || a.startsWith "+") && a != "--" && a.contains 'c')
      set p
      let start (name : String) (arguments : List String) (file : Bool) (text : List Char) :
          StateM Process Flow := do
        modify (fun (p : Process) => { p with name, arguments })
        let flow ← interpret fuel {} file text
        finish fuel flow
      match isCommand, rest with
      | true, [] => refuse "-c requires an argument" 2
      | true, [text] => start own [] false text.toList
      | true, text :: name :: arguments => start name arguments false text.toList
      | false, rest =>
        match if p.has .standardInput then none else rest.head? with
        | some path =>
          match p.openPath .reading path with
          | .error e => refuse (Redirected.openingFault .reading path e) 2
          | .ok _ =>
            let text := match p.locate path with
              | .ok loc => (p.readPlace loc).toOption.getD []
              | .error _ => []
            start path (rest.drop 1) true text
        | none =>
          let p := p.turn .standardInput true
          set p
          match p.readAll 0 with
          | .ok (text, p) =>
            set p
            start own rest true text
          | .error _ => start own rest true []

/-- Runs a text line by line; a text from a file is shown, where that was asked for, as it is
read. -/
def interpret : Nat → Mode → Bool → List Char → StateM Process Flow
  | 0, _, _, _ => exhausted
  | fuel + 1, mode, file, text => do
    let p ← get
    let flow ← lines fuel mode file 0 (Source.ofText p.aliases text)
    modify (fun (q : Process) => { q with readTo := p.readTo })
    pure flow

/-- Runs the lines that are left of a text; `last` is the status so far. -/
def lines : Nat → Mode → Bool → Nat → Source → StateM Process Flow
  | 0, _, _, _, _ => exhausted
  | fuel + 1, mode, file, last, source => do
    let p ← get
    match Grammar.nextLine { source with aliases := p.aliases } with
    | .error flaw =>
      set { p with line := flaw.line }
      Builtin.abort flaw.text
    | .ok none => Builtin.done last
    | .ok (some (step, rest)) =>
      if file && p.has .verbose then
        modify (fun p => p.say 2 (source.text.take (source.text.length - rest.text.length)))
      if step.isNothing then lines fuel mode file last rest
      else
        modify (fun (p : Process) => { p with readTo := rest.line })
        match ← run fuel mode step with
        | .next => lines fuel mode file (← get).status rest
        | flow => pure flow

end

end BuoyGateway.Shell
