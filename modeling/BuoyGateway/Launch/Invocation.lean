import BuoyGateway.Json.Record
import BuoyGateway.Json.Writer

/-!
# Invocations

A program and its arguments, and the form in which settings spell them.
-/

namespace BuoyGateway

structure Invocation where
  program : String
  args : List String := []
  deriving DecidableEq, Repr

namespace Invocation

def display (i : Invocation) : String := i.args.foldl (fun s arg => s ++ " " ++ arg) i.program

/-- An invocation as a record; its arguments may be left out. -/
def shape : Json.Shape Invocation where
  name := "Invocation"
  start := ⟨"", []⟩
  fields :=
    [.of "program" true (Json.string .path) (fun i program => { i with program }),
     .of "args" false (Json.string .string).list (fun i args => { i with args })]

def toJson (i : Invocation) : Json.Value :=
  .object [("program", .string i.program), ("args", .list (i.args.map .string))]

end Invocation

end BuoyGateway
