import BuoyGateway.Launch.Action
import BuoyGateway.Spool.Basic

/-!
# Launching programs on a machine

A machine launches a program from a directory of its disk. A directory that is not there is noted in
the log, and the program runs from where the machine is. What a program does is left open here: it is
what the `Programs` of the machine say.
-/

namespace BuoyGateway

/-- What comes of running a program to its end, on a disk that it may change. -/
abbrev Programs := Disk → Invocation → Report × Disk

def Machine.launchOf {ε : Type} (programs : Programs) (action : Action) :
    StateM (Machine ε) Report := fun machine =>
  let here := machine.disk.current
  let (place, machine) :=
    match machine.disk.locateDirectory action.dir with
    | .ok loc => (loc, machine)
    | .error _ =>
      (here, machine.note .error ("Error changing directory to: " ++ action.dir))
  let (report, disk) := programs { machine.disk with current := place } action.invocation
  (report, { machine with disk := { disk with current := here } })

end BuoyGateway
