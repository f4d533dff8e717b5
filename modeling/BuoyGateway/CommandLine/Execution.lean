import BuoyGateway.CommandLine.Arguments
import BuoyGateway.CommandLine.Display
import BuoyGateway.Launch.Boot
import BuoyGateway.Settings.File
import BuoyGateway.Shell.Execution
import BuoyGateway.Spool.Watch

/-!
# Executing a command line

A command line is executed on a disk: the settings are read, and then the request is carried out. A
failed boot script ends it with a code and a line in the log; every other failure is shown.
-/

namespace BuoyGateway.CommandLine

structure Outcome where
  /-- The code it ended with; none while it goes on. -/
  code : Option Nat
  output : String := ""
  failure : Option Failure := none
  log : List LogEntry := []
  disk : Disk

/-- The machine of a command line, on which nothing happens but what programs do. -/
abbrev Host := Machine Unit

def hostPlatform : Platform Host where
  launch := Machine.launch
  log entry := modify (fun machine => machine.note entry.level entry.text)

def hostSurroundings : Surroundings Unit where
  launch := Machine.launch
  isStopped _ := false
  pause machine := machine

def succeeded (output : String) (host : Host) : Outcome :=
  { code := some 0, output, log := host.log, disk := host.disk }

def failed (failure : Failure) (host : Host) : Outcome :=
  { code := some 1, failure := some failure, log := host.log, disk := host.disk }

def boot (settings : Settings) (host : Host) : Outcome :=
  match (hostPlatform.boot settings).run host with
  | (.ok (), host) => succeeded "" (host.note .info "Boot script completed")
  | (.error e, host) =>
    let host := host.note .error ("FATAL: " ++ e.message)
    { code := some 1, log := host.log, disk := host.disk }

def withSpool (settings : Settings) (host : Host) (use : Gateway Unit → Outcome) : Outcome :=
  match Spool.start host.disk settings with
  | (.error e, disk) => failed e { host with disk }
  | (.ok spool, disk) => use ⟨{ host with disk }, spool⟩

/-- Watches the inbox, once or for at most `limit` passes. -/
def watch (settings : Settings) (once : Bool) (limit : Nat) (host : Host) : Outcome :=
  withSpool settings (host.note .info "SMS controller starting") (fun gateway =>
    match (Gateway.watch hostSurroundings settings once limit {}).run gateway with
    | ((.ended (.ok ()), _), gateway) =>
      succeeded "" (gateway.machine.note .info "SMS controller stopped")
    | ((.ended (.error e), _), gateway) => failed e gateway.machine
    | ((.watching, _), gateway) =>
      { code := none, log := gateway.machine.log, disk := gateway.machine.disk })

def send (settings : Settings) (destination text : String) (host : Host) : Outcome :=
  withSpool settings host (fun gateway =>
    match ((Gateway.station Machine.launch).sendMessage destination text).run gateway with
    | (.ok (), gateway) => succeeded ("Queued SMS to " ++ destination ++ "\n") gateway.machine
    | (.error e, gateway) => failed (.send e) gateway.machine)

/-- What a text would lead to: the command it stands for, the reply and the action. -/
def explain (settings : Settings) (text : String) : String :=
  let command := Command.parse text
  let action := match Action.ofCommand? settings command with
    | some action => action.invocation.display ++ " (in " ++ action.dir ++ ")"
    | none => "none"
  "command: " ++ command.shown ++ "\nreply: " ++ command.reply ++ "\naction: " ++ action ++ "\n"

def carryOut (settings : Settings) (limit : Nat) (host : Host) : Request → Outcome
  | .boot => boot settings host
  | .run once => watch settings once limit host
  | .send destination text => send settings destination text host
  | .parse text => succeeded (explain settings text) host

def follow (limit : Nat) (host : Host) (arguments : Arguments) : Outcome :=
  let settings : Except Failure Settings := match arguments.settings with
    | none => .ok Settings.default
    | some path => Settings.load host.disk path
  match settings with
  | .error e => failed e host
  | .ok settings => carryOut settings limit host arguments.request

/-- Executes a command line on a disk. A request that goes on is followed for `limit` passes. The
log is one that a terminal may see. -/
def execute (limit : Nat) (disk : Disk) (arguments : List String) : Outcome :=
  match Arguments.parse arguments with
  | .error .usage => { code := some 2, disk := disk }
  | .error .help => { code := some 0, disk := disk }
  | .ok arguments =>
    let outcome := follow limit { disk := disk, log := [], outside := () } arguments
    { outcome with log := outcome.log.map LogEntry.printed }

end BuoyGateway.CommandLine
