/-!
# Paths

Paths are kept as the text they were given as. Joining puts one slash between two paths, unless
the first one needs none or the second one starts at the root.
-/

namespace BuoyGateway.Path

def isAbsolute (path : String) : Bool := path.toList.head? = some '/'

def join (base part : String) : String :=
  if isAbsolute part then part
  else if base = "" || base.toList.getLast? = some '/' then base ++ part
  else base ++ "/" ++ part

def parts (path : String) : List String := (path.toList.splitOn '/').map String.ofList

/-- The steps that a path takes: its parts, without those that stay in place. -/
def steps (path : String) : List String :=
  (parts path).filter (fun step => step != "" && step != ".")

end BuoyGateway.Path
