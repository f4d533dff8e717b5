import BuoyGateway.Shell.Place

/-!
# Programs

What a path leads to when it is run: a utility of the machine, or a file that names the program it
is written for in its first line. The file of a utility begins with a mark and holds its name.
-/

namespace BuoyGateway.Shell

def usualPath : String := "/usr/local/sbin:/usr/local/bin:/usr/sbin:/usr/bin:/sbin:/bin"

/-- Where utilities are looked for when they are wanted as they came with the machine. -/
def standardPath : String := "/usr/sbin:/usr/bin:/sbin:/bin"

def utilityMark : List Char := ['\x7f', 'E', 'L', 'F', '\x02', '\x01', '\x01']

def utilityFile (name : String) : List UInt8 := Text.toOctets (utilityMark ++ name.toList)

structure Call where
  utility : String
  name : String
  arguments : List String

/-- How much of a file is looked at to find out what program it is written for. -/
def headSize : Nat := 256

/-- The program and its argument that the first line of a file names, if it names one. A line that
goes on beyond what is looked at has to name the whole program there. -/
def interpreter? (octets : List UInt8) : Option (String × Option String) :=
  match (Text.ofOctets (octets.take headSize)).rightpad headSize '\x00' with
  | '#' :: '!' :: rest =>
    let isBlank (c : Char) : Bool := c = ' ' || c = '\t'
    let isEnd (c : Char) : Bool := isBlank c || c = '\x00'
    let line := rest.takeWhile (fun c => c != '\n' && c != '\x00')
    let ended := rest[line.length]? = some '\n'
    let line := if ended then line else rest.dropLast
    let body := line.dropWhile isBlank
    let program := body.takeWhile (fun c => !isEnd c)
    let argument := ((body.drop program.length).dropWhile isBlank).takeWhile (fun c => c != '\x00')
    let argument := (argument.reverse.dropWhile isBlank).reverse
    let cutOff := !ended && (rest.dropWhile isBlank).all (fun c => !isEnd c)
    if cutOff || (ended && program.isEmpty) then none
    else some (String.ofList program,
      if argument.isEmpty then none else some (String.ofList argument))
  | _ => none

/-- What comes of running a path with arguments. Files may name each other a few times. -/
def callAt (p : Process) : Nat → String → String → List String → Except SystemError Call
  | 0, _, _, _ => .error .tooManyLinks
  | fuel + 1, path, name, arguments => do
    let (loc, node) ← p.locateNode path true
    match node.content with
    | .directory => throw .permissionDenied
    | .file octets _ =>
      if p.modeAt loc node &&& 0o111 = 0 then throw .permissionDenied
      let text := Text.ofOctets (octets.take headSize)
      match utilityMark.isPrefixOf? text with
      | some utility => pure ⟨String.ofList utility, name, arguments⟩
      | none =>
        match interpreter? octets with
        | none => throw .badProgram
        | some (program, argument) =>
          callAt p fuel program program (argument.toList ++ path :: arguments)

def callDepth : Nat := 5

def argumentLimit : Nat := 131071

def callPath (p : Process) (path name : String) (arguments : List String) :
    Except SystemError Call :=
  if (name :: arguments).any (fun a => argumentLimit < a.length) then .error .argumentsTooLong
  else callAt p callDepth path name arguments

def pathsIn (search name : String) : List String :=
  (search.splitOn ":").map (fun dir => if dir = "" then name else dir ++ "/" ++ name)

/-- The location is missing; it is no use to complain about it as long as there are others. -/
def isMissing (e : SystemError) : Bool := e == .notFound || e == .notDirectory

/-- What comes of calling a program by its name, which is looked for in the places of `search`
unless it is a path. -/
def callNamed (p : Process) (search name : String) (arguments : List String) :
    Except SystemError Call :=
  if name = "" then .error .notFound
  else if name.contains '/' then callPath p name name arguments
  else if Disk.nameLimit < name.length then .error .nameTooLong
  else
    let rec first (denied : Bool) : List String → Except SystemError Call
      | [] => .error (if denied then .permissionDenied else .notFound)
      | path :: paths =>
        match callPath p path name arguments with
        | .ok call => .ok call
        | .error .permissionDenied => first true paths
        | .error e => if isMissing e then first denied paths else .error e
    first false (pathsIn search name)

/-! ### Programs of scripts -/

inductive Finding
  | path (path : String)
  | nothing (e : SystemError)
  deriving DecidableEq, Repr

/-- What the shell finds for a name. A name with a slash is a path, whatever is there. -/
def findProgram (p : Process) (search : Option String) (name : String) : Finding :=
  if name.contains '/' then .path name
  else
    let rec first (e : SystemError) : List String → Finding
      | [] => .nothing e
      | path :: paths =>
        match p.locateNode path true with
        | .ok (_, ⟨.file .., _⟩) => .path path
        | .ok (_, ⟨.directory, _⟩) => first .permissionDenied paths
        | .error e' => first (if isMissing e' then e else e') paths
    match search with
    | some search => first .notFound (pathsIn search name)
    | none => .nothing .notFound

/-- What comes of running a program that the shell was told to run. A file that names no program is
a script. -/
def runProgram (p : Process) (search : Option String) (name : String) (arguments : List String) :
    Except SystemError Call :=
  let rec first (e : SystemError) : List String → Except SystemError Call
    | [] => .error e
    | path :: paths =>
      match callPath p path name arguments with
      | .ok call => .ok call
      | .error .badProgram => .ok ⟨"sh", "/bin/sh", path :: arguments⟩
      | .error e' => first (if isMissing e' then e else e') paths
  if name.contains '/' then first .notFound [name]
  else
    match search with
    | some search => first .notFound (pathsIn search name)
    | none => .error .notFound

def launchFault (e : SystemError) : String × Nat :=
  if isMissing e then ("not found", 127)
  else (e.wording, if e == .tooManyLinks || e == .nameTooLong then 127 else 126)

end BuoyGateway.Shell
