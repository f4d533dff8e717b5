import BuoyGateway.Shell.Builtin.Basic

/-!
# Commands for signals and processes

They send signals, set what happens when signals come, and wait for processes beside the shell. A
signal that was sent takes effect when its target looks for it.
-/

namespace BuoyGateway.Shell.Builtin

def signalTo (p : Process) (target signal : Nat) : Option Process :=
  let isRunning := p.jobs.any (fun j => j.process = target && !j.noticed)
  let isBeside := p.neighbours.any (fun n => n.1 = target && p.clock ≤ n.2)
  if p.numbers.contains target || target = p.shell || target = p.parent || isRunning ||
      isBeside then
    some (if signal = 0 then p else p.send target signal)
  else if target = 0 then some p
  else none

def signalAll (signal : Nat) : Nat → List String → StateM Process Flow
  | code, [] => done code
  | code, a :: rest => do
    let p ← get
    let sent (target : Option Nat) : StateM Process Flow := do
      match target.bind (fun t => signalTo p t signal) with
      | some p =>
        set p
        signalAll signal code rest
      | none =>
        modify (fun p => p.complain "No such process\n")
        signalAll signal 1 rest
    match a.toList with
    | '%' :: s =>
      let index := Decimal.ofDigits s
      if s.all Char.isDigit && p.jobs.any (fun j => j.index = index) then sent none
      else abort ("No such job: " ++ a)
    | '-' :: s =>
      match number? (String.ofList s) with
      | some n => sent (if n = 0 then some 0 else none)
      | none => abort ("Illegal number: " ++ String.ofList s)
    | _ =>
      match number? a with
      | some n => sent (some n)
      | none => abort ("Illegal number: " ++ a)

def listSignals (arguments : List String) : StateM Process Flow :=
  match arguments with
  | [] =>
    let names := ((List.range Signal.count).drop 1).map Signal.name
    emit (String.join (("0" :: names).map (fun s => s ++ "\n"))).toList 0
  | a :: _ => withNumber a (fun n =>
    let signal := if 128 < n then n - 128 else n
    if 0 < signal && signal < Signal.count then emit (Signal.name signal ++ "\n").toList 0
    else abort ("invalid signal number or exit status: " ++ a))

def kill : Builtin := fun arguments =>
  let usage : StateM Process Flow :=
    abort ("Usage: kill [-s sigspec | -signum | -sigspec] [pid | job]... or\n" ++
      "kill -l [exitstatus]")
  let targets (signal : Nat) (rest : List String) : StateM Process Flow :=
    if rest.isEmpty then usage else signalAll signal 0 rest
  match arguments with
  | [] => usage
  | a :: rest =>
    match a.toList with
    | '-' :: s =>
      match Signal.ofText? 1 (String.ofList s) with
      | some signal => targets signal rest
      | none =>
        withOptions "ls:" arguments (fun found rest =>
          let named := (found.filter (fun o => o.1 = 's')).map Prod.snd
          let isList := found.any (fun o => o.1 = 'l')
          match named.find? (fun s => (Signal.ofText? 1 s).isNone) with
          | some s => abort ("invalid signal number or name: " ++ s)
          | none =>
            match isList, named.getLast?.bind (Signal.ofText? 1) with
            | true, none => listSignals rest
            | true, some _ => usage
            | false, signal => targets (signal.getD 15) rest)
    | _ => targets 15 arguments

def trapEach (script : Option String) : List String → StateM Process Flow
  | [] => done 0
  | name :: rest => do
    match Signal.ofText? 0 name with
    | none =>
      modify (fun p => p.say 2 ("trap: " ++ name ++ ": bad trap\n").toList)
      done 1
    | some n =>
      modify (fun p =>
        let others := p.traps.filter (fun t => t.1 != n)
        { p with traps := (script.map (fun s => (n, s))).toList ++ others })
      trapEach script rest

def trap : Builtin := fun arguments =>
  withOptions "" arguments (fun _ rest => do
    match rest with
    | [] =>
      let p ← get
      let lines := (List.range Signal.count).filterMap (fun n =>
        (p.traps.lookup n).map (fun s =>
          "trap -- " ++ quoted s ++ " " ++ Signal.name n ++ "\n"))
      emit (String.join lines).toList 0
    | [name] => trapEach none [name]
    | script :: names =>
      let isNumber := script != "" && script.toList.all Char.isDigit &&
        Decimal.ofDigits script.toList < Signal.count
      if isNumber then trapEach none rest
      else trapEach (if script = "-" then none else some script) names)

/-! ### Processes beside the shell -/

def job? (p : Process) (name : Option String) : Except String Job :=
  let current (k : Nat) (what : String) : Except String Job :=
    match p.jobs[k]? with
    | some job => .ok job
    | none => .error ("No " ++ what ++ " job")
  match name with
  | none => current 0 "current"
  | some a =>
    match a.toList with
    | ['%'] | ['%', '%'] | ['%', '+'] => current 0 "current"
    | ['%', '-'] => current 1 "previous"
    | '%' :: s =>
      match p.jobs.find? (fun j => s.all Char.isDigit && j.index = Decimal.ofDigits s) with
      | some job => .ok job
      | none => .error ("No such job: " ++ a)
    | _ => .error ("No such job: " ++ a)

/-- How far apart things happen that happen at the same time, in microseconds. -/
def moment : Nat := 5000

/-- Waits until a time, unless a signal comes that is attended to; the signal, if one comes. -/
def waitTo (time : Nat) : StateM Process (Option Nat) := do
  let p ← get
  let isNoticed (s : Sending) : Bool :=
    s.time + moment < time && p.reaction s.signal != .ignore
  match p.coming.find? isNoticed with
  | some s =>
    set (p.waitUntil s.time)
    pure (some s.signal)
  | none =>
    set (p.waitUntil time).reap
    pure none

/-- Waits for the processes that the arguments name; `code` is the status so far. -/
def waitEach : Nat → List String → StateM Process Flow
  | code, [] => done code
  | code, a :: rest => do
    let p ← get
    let found : Except String (Option Job) :=
      if a.startsWith "%" then (job? p (some a)).map some
      else
        match number? a with
        | some n => .ok (p.jobs.find? (fun j => j.process = n))
        | none => .error ("Illegal number: " ++ a)
    match found with
    | .error e => abort e
    | .ok none => waitEach code rest
    | .ok (some job) =>
      match ← waitTo job.ends with
      | some signal => done (128 + signal)
      | none =>
        match job.signal, job.noticed with
        | some signal, false =>
          if Signal.isTold signal then
            modify (fun p => p.say 2 (Signal.obituary signal ++ "\n").toList)
        | _, _ => pure ()
        modify (fun p => p.changeJob job.process (fun j => { j with awaited := true }))
        waitEach job.status rest

def wait : Builtin := fun arguments =>
  withOptions "" arguments (fun _ rest => do
    if rest.isEmpty then
      let p ← get
      match ← waitTo (p.jobs.foldl (fun t j => max t j.ends) p.clock) with
      | some signal => done (128 + signal)
      | none =>
        modify (fun p => { p with jobs := p.jobs.map (fun j => { j with awaited := true }) })
        done 0
    else waitEach 127 rest)

/-- What is said about a process beside the shell, the `place`-th from the latest. -/
def jobLine (job : Job) (running : Bool) (place : Nat) : String :=
  let mark := if place = 0 then "+" else if place = 1 then "-" else " "
  let state :=
    if running then "Running"
    else
      match job.signal with
      | some signal => Signal.obituary signal
      | none => if job.status = 0 then "Done" else "Done(" ++ Signal.numeral job.status ++ ")"
  let line := "[" ++ Signal.numeral job.index ++ "] " ++ mark ++ " " ++ state
  String.ofList (line.toList.rightpad 33 ' ') ++
    String.join (List.replicate (job.stages - 1) " | ") ++ "\n"

def listJobs (p : Process) (ids : Bool) : List Job → Nat → String
  | [], _ => ""
  | job :: rest, place =>
    let running := p.clock < job.ends
    (if ids then Signal.numeral job.process ++ "\n" else jobLine job running place) ++
      listJobs p ids rest (if running then place + 1 else place)

def jobs : Builtin := fun arguments =>
  withOptions "lp" arguments (fun found rest => do
    let p ← get
    match rest.find? (fun a => (job? p (some a)).toOption.isNone) with
    | some a =>
      match job? p (some a) with
      | .error e => abort e
      | .ok _ => done 0
    | none =>
      let shown :=
        if rest.isEmpty then p.jobs else rest.filterMap (fun a => (job? p (some a)).toOption)
      let ids := (found.getLast?.map Prod.fst) = some 'p'
      let ended := shown.filter (fun j => j.ends ≤ p.clock)
      set { p with jobs := p.jobs.filter (fun j => !ended.any (fun e => e.process = j.process)) }
      emit (listJobs p ids shown 0).toList 0)

/-- Would bring a process to the front or back, for which it would have to be under control. -/
def move : Builtin := fun arguments =>
  withOptions "" arguments (fun _ rest => do
    match job? (← get) rest.head? with
    | .error e => abort e
    | .ok _ => abort ("job " ++ rest.headD "(null)" ++ " not created under job control"))

end BuoyGateway.Shell.Builtin
