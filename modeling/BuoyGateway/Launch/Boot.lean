import BuoyGateway.Launch.Action

/-!
# The boot script

Run once when the buoy starts. A buoy whose boot script did not end well is not fit for use, so
every failure is one to stop at.
-/

namespace BuoyGateway

/-- Why the boot script did not end well. -/
inductive BootFailure
  | launch (e : SystemError)
  | abnormal
  | exitCode (code : Int)
  deriving DecidableEq, Repr

def BootFailure.message : BootFailure → String
  | .launch e => "Could not run boot script: " ++ e.message
  | .abnormal => "Could not run boot script: terminated abnormally"
  | .exitCode code => "boot script failed with exit code " ++ Decimal.text code

namespace Platform

variable {σ : Type}

def bootWith (p : Platform σ) (script : Action) : StateM σ (Except BootFailure Unit) := do
  p.info ("Running " ++ script.invocation.display)
  match ← p.run script with
  | .error e => pure (.error (.launch e))
  | .ok .abnormal => pure (.error .abnormal)
  | .ok (.exited code) => pure (if code = 0 then .ok () else .error (.exitCode code))

def boot (p : Platform σ) (settings : Settings) : StateM σ (Except BootFailure Unit) :=
  p.bootWith ⟨settings.bootDir, settings.bootCommand⟩

end Platform

end BuoyGateway
