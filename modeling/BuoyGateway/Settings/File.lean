import BuoyGateway.Disk.Files
import BuoyGateway.Failure
import BuoyGateway.Settings
import BuoyGateway.Text.Utf8

/-!
# The file of settings

Settings are read from a file, JSON in UTF-8. A file that cannot be read is named in what is said
about it; a fault in its text is not.
-/

namespace BuoyGateway

def Disk.readText (disk : Disk) (path : String) : Except SystemError (List Char) := do
  match Text.decode? (← disk.read path) with
  | some text => pure text
  | none => throw .notUtf8

def Settings.load (disk : Disk) (path : String) : Except Failure Settings := do
  let text ← (disk.readText path).mapError (fun e => .settings (path ++ ": " ++ e.message))
  (Settings.read text).mapError .json

end BuoyGateway
