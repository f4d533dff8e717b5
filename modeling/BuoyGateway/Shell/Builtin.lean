import BuoyGateway.Shell.Builtin.Control
import BuoyGateway.Shell.Builtin.Directory
import BuoyGateway.Shell.Builtin.Names
import BuoyGateway.Shell.Builtin.Signals
import BuoyGateway.Shell.Format

/-!
# The commands of the shell

All commands that the shell carries out itself, by their names. Those that evaluate something are
only named here.
-/

namespace BuoyGateway.Shell.Builtin

def test : Builtin := fun words => do
  match Condition.holds (← get) words with
  | .ok b => done (if b then 0 else 1)
  | .error e => abort e

def bracket : Builtin := fun words =>
  match words.reverse with
  | "]" :: words => test words.reverse
  | _ => abort "missing ]"

def echo : Builtin := fun arguments => emit (Format.echo (arguments.map String.toList)) 0

def printf : Builtin := fun arguments =>
  withOptions "" arguments (fun _ rest => do
    match rest with
    | [] => abort "usage: printf format [arg ...]"
    | format :: arguments =>
      let written := Format.printf Format.ofShell format.toList (arguments.map String.toList)
      let breach := match written.breach with
        | some (.directive text) => [text ++ ": invalid directive"]
        | some .unfinished => ["missing format character"]
        | none => []
      modify (fun p => (written.faults.reverse ++ breach).foldl Process.complain p)
      let code := if !breach.isEmpty then 2 else if written.faults.isEmpty then 0 else 1
      emit written.reversed.reverse code)

def special? (name : String) : Option Builtin :=
  match name with
  | ":" => some (fun _ => done 0)
  | "exit" => some exit
  | "return" => some return'
  | "break" => some break'
  | "continue" => some continue'
  | "shift" => some shift
  | "set" => some set'
  | "export" => some export'
  | "readonly" => some readonly
  | "local" => some local'
  | "unset" => some unset
  | "trap" => some trap
  | "times" => some times
  | _ => none

def ordinary? (name : String) : Option Builtin :=
  match name with
  | "true" => some (fun _ => done 0)
  | "false" => some (fun _ => done 1)
  | "[" => some bracket
  | "alias" => some alias'
  | "bg" | "fg" => some move
  | "cd" | "chdir" => some cd
  | "command" => some command
  | "echo" => some echo
  | "getopts" => some getopts
  | "hash" => some hash
  | "jobs" => some jobs
  | "kill" => some kill
  | "printf" => some printf
  | "pwd" => some pwd
  | "read" => some read
  | "test" => some test
  | "type" => some type
  | "ulimit" => some ulimit
  | "umask" => some umask
  | "unalias" => some unalias
  | "wait" => some wait
  | _ => none

def withAssignments : List String := ["alias", "export", "readonly", "local"]

end BuoyGateway.Shell.Builtin
