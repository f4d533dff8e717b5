import BuoyGateway.Disk.Files
import BuoyGateway.Launch.Output
import BuoyGateway.Shell.Script
import BuoyGateway.Shell.Signal
import BuoyGateway.Shell.Switch
import BuoyGateway.Text.Octets

/-!
# Processes

A process that runs a script: its variables, its arguments, its switches and the streams that its
descriptors lead to. Processes share a world: the streams, what was written to the outside, and the
signals that are on their way. Time passes in microseconds, and each process has a clock of its own,
so that what processes write at the same time can be put in order.
-/

namespace BuoyGateway.Shell

structure Chunk where
  time : Nat
  text : List Char

/-- Where a descriptor leads. Two descriptors may lead to one stream, so streams have numbers. -/
inductive Stream
  | nothing
  | zeros
  | full
  | channel (channel : Channel)
  /-- Text on its way from writers to readers: what comes next, and the latest, backwards. -/
  | pipe (front back : List Chunk)
  | file (loc : Location) (offset : Nat) (opening : Opening)

/-- Something that was written to the outside: when, by which processes, and what. -/
structure Writing where
  time : Nat
  writers : List Nat
  channel : Channel
  octets : List UInt8

structure Sending where
  time : Nat
  target : Nat
  signal : Nat
  deriving DecidableEq, Repr

structure World where
  streams : List (Nat × Stream) := []
  lastStream : Nat := 0
  writings : List Writing := []
  lastProcess : Nat := 100
  sendings : List Sending := []
  /-- Signals that were sent to processes of which all was worked out before, the latest first. -/
  belated : List Sending := []
  /-- Signals that are known to come, because they came belated when all was worked out before. -/
  foreseen : List Sending := []
  links : List (Location × String) := []
  modes : List (Location × Nat) := []

structure Variable where
  value : Option String := none
  exported : Bool := false
  fixed : Bool := false

/-- What a function or a command has made its own, as it was before. -/
structure Scope where
  bindings : List (String × Option Variable) := []
  switches : Option (List Switch) := none

/-- A process that runs beside the shell. What it does is worked out when it begins, so that it is
known when it ends and how. -/
structure Job where
  index : Nat
  process : Nat
  ends : Nat
  status : Nat
  signal : Option Nat := none
  noticed : Bool := false
  awaited : Bool := false
  stages : Nat := 1

structure Process where
  disk : Disk
  world : World := {}
  clock : Nat := 0
  /-- The numbers of the process and of those that it was split off from, its own first. -/
  numbers : List Nat := [100]
  shell : Nat := 100
  parent : Nat := 1
  name : String := "sh"
  /-- The command of the shell that is at work, or the file that is read. -/
  context : Option String := none
  arguments : List String := []
  bindings : List (String × Variable) := []
  functions : List (String × Script) := []
  aliases : List (String × String) := []
  tracked : List (String × String) := []
  scopes : List Scope := []
  switches : List Switch := []
  line : Nat := 0
  readTo : Nat := 1
  status : Nat := 0
  outputStatus : Nat := 0
  savedStatus : Option Nat := none
  loops : Nat := 0
  calls : Nat := 0
  /-- The scripts that run when a signal comes, or, under number zero, when the process ends. -/
  traps : List (Nat × String) := []
  /-- The signals that were ignored when the process began. They are ignored for good. -/
  ignored : List Nat := []
  jobs : List Job := []
  /-- The processes beside those that the process was split off from, and when they end. -/
  neighbours : List (Nat × Nat) := []
  lastJob : Option Nat := none
  /-- The next argument whose options are looked at, and how many of its characters were. -/
  optionPlace : Nat × Option Nat := (1, none)
  tracing : Bool := false
  mask : Nat := 0o22
  here : String := "/"
  descriptors : List (Nat × Nat) := []

namespace Process

def number (p : Process) : Nat := p.numbers.headD 0

def wait (p : Process) (microseconds : Nat) : Process :=
  { p with clock := p.clock + microseconds }

def waitUntil (p : Process) (time : Nat) : Process := { p with clock := max p.clock time }

/-- What another process was, after one that was split off from it has ended. The files stay as that
one has left them, but each process has its own directory. -/
def resume (outer inner : Process) : Process :=
  { outer with
    disk := { inner.disk with current := outer.disk.current }
    world := inner.world
    clock := inner.clock
    status := inner.status }

/-! ### Variables and switches -/

def value? (p : Process) (name : String) : Option String :=
  (p.bindings.lookup name).bind Variable.value

def has (p : Process) (switch : Switch) : Bool := p.switches.contains switch

def turn (p : Process) (switch : Switch) (on : Bool) : Process :=
  let others := p.switches.filter (fun s => s != switch)
  { p with switches := if on then switch :: others else others }

def changeVariable (p : Process) (name : String) (f : Variable → Variable) : Process :=
  { p with bindings :=
      (name, f ((p.bindings.lookup name).getD {})) ::
        p.bindings.filter (fun entry => entry.1 != name) }

def isFixed (p : Process) (name : String) : Bool :=
  ((p.bindings.lookup name).map Variable.fixed).getD false

/-- What hangs on a variable that gets a value: the place of options, and where utilities were
found. -/
def heed (p : Process) (name value : String) : Process :=
  match name with
  | "OPTIND" =>
    let digits := value.toList
    let n := if digits.all Char.isDigit then Decimal.ofDigits digits else 1
    { p with optionPlace := (max n 1, none) }
  | "PATH" => { p with tracked := [] }
  | _ => p

def assign (p : Process) (name value : String) : Process :=
  (p.heed name value).changeVariable name (fun v =>
    { v with value := some value, exported := v.exported || p.has .exportAll })

def unset (p : Process) (name : String) : Process :=
  { p.heed name "1" with bindings := p.bindings.filter (fun entry => entry.1 != name) }

def restore (p : Process) (before : List (String × Option Variable)) : Process :=
  let one (p : Process) (entry : String × Option Variable) : Process :=
    let name := entry.1
    let others := p.bindings.filter (fun e => e.1 != name)
    let value := (entry.2.bind Variable.value).getD ""
    { p.heed name value with
      bindings := (entry.2.map (fun v => (name, v))).toList ++ others }
  before.foldl one p

def enterScope (p : Process) : Process := { p with scopes := {} :: p.scopes }

/-- Makes what a function or a command has made its own what it was before. -/
def leaveScope (p : Process) : Process :=
  match p.scopes with
  | [] => p
  | scope :: scopes =>
    { p.restore scope.bindings with
      scopes := scopes
      switches := scope.switches.getD p.switches }

def keepVariable (p : Process) (name : String) : Process :=
  match p.scopes with
  | [] => p
  | scope :: scopes =>
    if (scope.bindings.lookup name).isSome then p
    else
      let entry := (name, p.bindings.lookup name)
      { p with scopes := { scope with bindings := entry :: scope.bindings } :: scopes }

def separators (p : Process) : List Char :=
  match p.value? "IFS" with
  | some s => s.toList
  | none => [' ', '\t', '\n']

def searchPath (p : Process) : Option String := p.value? "PATH"

def track (p : Process) (name path : String) : Process :=
  { p with tracked := p.tracked.filter (fun t => t.1 != name) ++ [(name, path)] }

def exported (p : Process) : List (String × Variable) :=
  p.bindings.filter (fun v => v.2.exported && v.2.value.isSome)

def hasTraps (p : Process) : Bool := p.traps.any (fun t => t.2 != "")

def special? (p : Process) (name : String) : Option String :=
  let number (n : Nat) : Option String := some (Signal.numeral n)
  match name with
  | "#" => number p.arguments.length
  | "?" => number p.status
  | "$" => number p.shell
  | "-" => some (String.ofList (Switch.letters p.switches))
  | "!" => p.lastJob.bind number
  | "0" => some p.name
  | "@" | "*" => some (String.intercalate " " p.arguments)
  | _ =>
    if name.toList.all Char.isDigit then
      let n := Decimal.ofDigits name.toList
      if n = 0 then some p.name else p.arguments[n - 1]?
    else none

def parameter? (p : Process) (name : String) : Option String :=
  if isName name.toList then p.value? name else p.special? name

/-! ### Signals -/

inductive Reaction
  | ignore
  | attend (script : String)
  | die
  deriving DecidableEq, Repr

def reaction (p : Process) (signal : Nat) : Reaction :=
  if Signal.isFinal signal then if signal = 9 then .die else .ignore
  else if p.ignored.contains signal then .ignore
  else
    match p.traps.lookup signal with
    | some "" => .ignore
    | some script => .attend script
    | none => if Signal.isUnnoticed signal then .ignore else .die

def send (p : Process) (target signal : Nat) : Process :=
  let s : Sending := ⟨p.clock, target, signal⟩
  if p.numbers.contains target then
    { p with world := { p.world with sendings := s :: p.world.sendings } }
  else { p with world := { p.world with belated := s :: p.world.belated } }

def coming (p : Process) : List Sending :=
  match p.world.sendings, p.world.foreseen with
  | [], [] => []
  | sent, foreseen =>
    ((sent.reverse ++ foreseen).filter (fun s => s.target = p.number)).mergeSort
      (fun a b => decide (a.time ≤ b.time))

def due (p : Process) : List Sending := p.coming.takeWhile (fun s => s.time ≤ p.clock)

def fatal? (p : Process) : Option Sending :=
  p.due.find? (fun s => p.reaction s.signal == .die)

/-- A signal has come and was attended to. So are others of its kind that have come since. -/
def attended (p : Process) (signal : Nat) : Process :=
  let isLeft (s : Sending) : Bool :=
    !(s.target = p.number && s.signal = signal && s.time ≤ p.clock)
  { p with world := { p.world with
      sendings := p.world.sendings.filter isLeft
      foreseen := p.world.foreseen.filter isLeft } }

/-! ### Processes beside the shell -/

def reap (p : Process) : Process :=
  if p.jobs.isEmpty then p
  else
    { p with jobs := p.jobs.map (fun j => { j with noticed := j.noticed || j.ends ≤ p.clock }) }

/-- The least index that no process beside the shell has which could still be asked for. -/
def freeIndex (p : Process) : Nat :=
  let taken := (p.jobs.filter (fun j => !(j.noticed && j.awaited))).map Job.index
  ((List.range (taken.length + 1)).find? (fun i => !taken.contains (i + 1))).getD 0 + 1

def addJob (p : Process) (job : Job) : Process :=
  let index := p.freeIndex
  { p with
    jobs := { job with index := index } :: p.jobs.filter (fun j => j.index != index)
    lastJob := some job.process }

def changeJob (p : Process) (process : Nat) (f : Job → Job) : Process :=
  { p with jobs := p.jobs.map (fun j => if j.process = process then f j else j) }

end Process

/-- What was written to the outside in the order of time. What was written at the same time stays in
its order. -/
def World.inOrder (world : World) : List Writing :=
  world.writings.reverse.mergeSort (fun a b => decide (a.time ≤ b.time))

/-- What is seen from the outside: all that was written, and then the ends of both channels. -/
def World.arrivals (world : World) : List Arrival :=
  world.inOrder.map (fun w => .piece w.channel w.octets) ++ [.ended .output, .ended .errors]

end BuoyGateway.Shell
