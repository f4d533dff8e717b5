import BuoyGateway.Log
import BuoyGateway.Settings
import BuoyGateway.Sms.Command
import BuoyGateway.SystemError

/-!
# Actions

What a command makes the buoy do: launch one of three scripts from its directory. A launch runs to
its end, and its output goes to the log line by line.
-/

namespace BuoyGateway

/-- A program to launch, and the directory to launch it from. -/
structure Action where
  dir : String
  invocation : Invocation
  deriving DecidableEq, Repr

def Action.ofCommand? (settings : Settings) : Command → Option Action
  | .upgrade version => some ⟨settings.scriptsDir, ⟨settings.upgradeScript, [version]⟩⟩
  | .reboot => some ⟨settings.rebootDir, ⟨settings.rebootCommand, []⟩⟩
  | .sleep seconds =>
    if 0 < seconds then
      some ⟨settings.scriptsDir, ⟨settings.ulpmScript, [Decimal.text seconds]⟩⟩
    else none
  | .unknown _ => none

/-- How a program ended: with a code, or without one, as when a signal ends it. -/
inductive Ending
  | exited (code : Int)
  | abnormal
  deriving DecidableEq, Repr

def Ending.isSuccess (ending : Ending) : Bool := ending == .exited 0

def Ending.phrase : Ending → String
  | .exited code => "Exited(" ++ Decimal.text code ++ ")"
  | .abnormal => "Abnormal"

/-- What came of a launch: the lines that were read, and how the program ended, or why it could
not be run. -/
structure Report where
  lines : List String
  result : Except SystemError Ending

/-- What a running gateway stands on: a way to launch programs, and a log. -/
structure Platform (σ : Type) where
  launch : Action → StateM σ Report
  log : LogEntry → StateM σ Unit

namespace Platform

variable {σ : Type}

def info (p : Platform σ) (text : String) : StateM σ Unit := p.log ⟨.info, text⟩

def warn (p : Platform σ) (text : String) : StateM σ Unit := p.log ⟨.warning, text⟩

def error (p : Platform σ) (text : String) : StateM σ Unit := p.log ⟨.error, text⟩

def run (p : Platform σ) (action : Action) : StateM σ (Except SystemError Ending) := do
  let report ← p.launch action
  report.lines.forM (fun line => p.info ("script output: '" ++ line ++ "'"))
  pure report.result

def announce (p : Platform σ) (action : Action) : Command → StateM σ Unit
  | .upgrade version => do
    p.info ("Running upgrade: " ++ version)
    p.info ("Running script " ++ action.invocation.display)
  | _ => p.info ("Running script " ++ action.invocation.display)

def conclude (p : Platform σ) (action : Action) : Except SystemError Ending → StateM σ Unit
  | .ok ending =>
    if ending.isSuccess then pure ()
    else p.error ("The script exited with an error (" ++ ending.phrase ++ ")")
  | .error e => p.error ("Could not launch " ++ action.invocation.display ++ ": " ++ e.message)

/-- Launches what a command asks for. Whatever goes wrong is logged, and the action is returned
all the same. -/
def perform (p : Platform σ) (settings : Settings) (command : Command) :
    StateM σ (Option Action) := do
  match Action.ofCommand? settings command with
  | none => pure none
  | some action =>
    p.announce action command
    p.conclude action (← p.run action)
    pure (some action)

end Platform

end BuoyGateway
