import BuoyGateway.CommandLine.Execution

/-!
# The program

Executes its command line on a disk in memory that holds what a machine comes with at first, and
follows a request that goes on for a day of passes at most.
-/

namespace BuoyGateway

def passLimit : Nat := 86400

end BuoyGateway

open BuoyGateway in
def main (arguments : List String) : IO UInt32 := do
  let disk := Shell.Installation.disk (Time.Instant.ofSeconds 0)
  let outcome := CommandLine.execute passLimit disk arguments
  for entry in outcome.log do
    IO.eprintln entry.line
  if let some failure := outcome.failure then
    IO.eprintln ("Error: " ++ failure.shown)
  IO.print outcome.output
  return UInt32.ofNat (outcome.code.getD 0)
