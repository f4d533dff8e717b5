import BuoyGateway.Launch.Output
import BuoyGateway.Launch.System
import BuoyGateway.Shell.Evaluation
import BuoyGateway.Shell.Installation

/-!
# Running programs

The programs of a machine on which a shell and the usual utilities are installed. A program reads
nothing, and all that it writes is handed over before its ending.
-/

namespace BuoyGateway

namespace Shell

/-- A process that has not begun: it can read nothing, what it writes is seen, and some signals are
known to come. -/
def Process.initial (disk : Disk) (foreseen : List Sending) : Process :=
  let passed (value : String) : Variable := { value := some value, exported := true }
  let p : Process :=
    { disk := disk
      world := { foreseen := foreseen, links := Installation.links }
      bindings :=
        [("PATH", passed usualPath), ("HOME", passed "/root"),
         ("PWD", passed (Process.pathOfLocation disk.current))] }
  ((p.openStream 0 .nothing).openStream 1 (.channel .output)).openStream 2 (.channel .errors)

/-- How deep the evaluation of a script may nest, and how often its loops may turn. -/
def depth : Nat := 1000000

/-- Carries out a call to its end. What a process does that was split off is worked out when it
begins; if signals are sent to it later, all is worked out again with these signals in mind, so many
times at most. -/
def follow (disk : Disk) (call : Call) : Nat → List Sending → Flow × Process
  | 0, foreseen => (program depth call).run (Process.initial disk foreseen)
  | rounds + 1, foreseen =>
    let (flow, p) := (program depth call).run (Process.initial disk foreseen)
    let belated := p.world.belated.reverse
    if belated = foreseen then (flow, p) else follow disk call rounds belated

def roundLimit : Nat := 8

/-- Runs a program to its end, on a disk that it may change. -/
def execute (disk : Disk) (invocation : Invocation) : Report × Disk :=
  if (invocation.program :: invocation.args).any (fun s => s.contains '\x00') then
    ({ lines := [], result := .error .nulInArgument }, disk)
  else
    let name := Process.ofPath invocation.program
    let arguments := invocation.args.map Process.ofPath
    match callNamed (Process.initial disk []) usualPath name arguments with
    | .error e => ({ lines := [], result := .error e }, disk)
    | .ok call =>
      let (flow, p) := follow disk call roundLimit []
      let ending := match flow with
        | .killed _ => Ending.abnormal
        | _ => .exited (p.status % 256)
      (Report.ofArrivals p.world.arrivals ending, { p.disk with current := disk.current })

end Shell

def Machine.launch {ε : Type} : Action → StateM (Machine ε) Report := Machine.launchOf Shell.execute

end BuoyGateway
