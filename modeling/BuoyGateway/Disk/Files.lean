import BuoyGateway.Disk.Basic
import BuoyGateway.Disk.Path

/-!
# Files and directories

The single steps that programs take on a disk: each either does its work or leaves the disk as it
was and says why. `locate` finds the location of a path, `makeDirectories` makes a directory with
all that lead to it.
-/

namespace BuoyGateway.Disk

def nameLimit : Nat := 255

def pathLimit : Nat := 4095

/-- The location reached by steps from a directory. Each step leaves a directory that is there; the
last one may lead to a place where nothing is. -/
def walk (disk : Disk) : Location → List String → Except SystemError Location
  | loc, [] => .ok loc
  | loc, step :: steps =>
    match disk.find? loc with
    | none => .error .notFound
    | some node =>
      if !node.isDirectory then .error .notDirectory
      else if step = ".." then walk disk loc.tail steps
      else if nameLimit < Text.size step then .error .nameTooLong
      else walk disk (step :: loc) steps

def origin (disk : Disk) (path : String) : Location :=
  if Path.isAbsolute path then [] else disk.current

def namesDirectory (path : String) : Bool := (Path.parts path).getLast? ∈ [some "", some "."]

def locate (disk : Disk) (path : String) : Except SystemError Location :=
  if '\x00' ∈ path.toList then .error .nulInName
  else if path = "" then .error .notFound
  else if pathLimit < Text.size path then .error .nameTooLong
  else
    match disk.walk (disk.origin path) (Path.steps path) with
    | .error e => .error e
    | .ok loc =>
      if namesDirectory path && (disk.find? loc).any (fun node => !node.isDirectory) then
        .error .notDirectory
      else .ok loc

def locateDirectory (disk : Disk) (path : String) : Except SystemError Location :=
  match disk.locate path with
  | .error e => .error e
  | .ok loc =>
    match disk.find? loc with
    | none => .error .notFound
    | some node => if node.isDirectory then .ok loc else .error .notDirectory

def permit (disk : Disk) (access : Access) (loc : Location) : Except SystemError Unit :=
  match disk.refuses access loc with
  | some e => .error e
  | none => .ok ()

/-! ### Looking -/

/-- The medium gives away that the entry is there. -/
def shows (disk : Disk) (dir : Location) (name : String) : Bool :=
  (disk.refuses .entry (name :: dir)).isNone

/-- The names in a directory. An entry that the medium does not give away is passed over. -/
def list (disk : Disk) (path : String) : Except SystemError (List String) := do
  let dir ← disk.locateDirectory path
  disk.permit .list dir
  pure ((disk.names dir).filter (disk.shows dir))

def readAt (disk : Disk) (loc : Location) : Except SystemError (List UInt8) := do
  disk.permit .read loc
  match disk.find? loc with
  | none => throw .notFound
  | some ⟨.directory, _⟩ => throw .isDirectory
  | some ⟨.file octets _, _⟩ => pure octets

def read (disk : Disk) (path : String) : Except SystemError (List UInt8) := do
  disk.readAt (← disk.locate path)

def modifiedAt (disk : Disk) (loc : Location) : Except SystemError Time.Instant := do
  disk.permit .inspect loc
  match disk.find? loc with
  | none => throw .notFound
  | some node => pure node.modified

/-! ### Changing -/

def makeDirectoryAt (disk : Disk) (loc : Location) : Except SystemError Disk := do
  match disk.find? loc with
  | some _ => throw .alreadyExists
  | none =>
    disk.permit .makeDirectory loc
    pure ((disk.insert loc ⟨.directory, disk.now⟩).stamp loc.tail)

def createAt (disk : Disk) (loc : Location) : Except SystemError Disk := do
  match disk.find? loc with
  | some _ => throw .alreadyExists
  | none =>
    disk.permit .create loc
    pure ((disk.insert loc ⟨.file [] false, disk.now⟩).stamp loc.tail)

def writeAt (disk : Disk) (loc : Location) (octets : List UInt8) : Except SystemError Disk := do
  disk.permit .write loc
  match disk.find? loc with
  | none => throw .notFound
  | some ⟨.directory, _⟩ => throw .isDirectory
  | some ⟨.file _ executable, _⟩ => pure (disk.insert loc ⟨.file octets executable, disk.now⟩)

def removeAt (disk : Disk) (loc : Location) : Except SystemError Disk := do
  disk.permit .remove loc
  match disk.find? loc with
  | none => throw .notFound
  | some ⟨.directory, _⟩ => throw .isDirectory
  | some ⟨.file .., _⟩ => pure ((disk.erase loc).stamp loc.tail)

/-- What is at the target may give way to what is moved there. -/
def givesWay (disk : Disk) (source target : Location) : Except SystemError Unit :=
  match disk.find? source, disk.find? target with
  | none, _ => .error .notFound
  | some _, none => .ok ()
  | some s, some t =>
    if s.isDirectory && !t.isDirectory then .error .notDirectory
    else if !s.isDirectory && t.isDirectory then .error .isDirectory
    else if t.isDirectory && !(disk.names target).isEmpty then .error .notEmpty
    else .ok ()

/-- Moves a file or a directory. A file at the target is replaced, and so is an empty directory. -/
def renameAt (disk : Disk) (source target : Location) : Except SystemError Disk := do
  disk.permit .rename source
  disk.givesWay source target
  if source = target then pure disk
  else if isWithin source target then throw .invalidArgument
  else pure (((disk.moveTree source target).stamp source.tail).stamp target.tail)

/-! ### Directories on the way -/

/-- Makes the directory that is reached by steps, listed from the last one, with those that lead to
it. Directories made before a failure stay. -/
def makeAll (disk : Disk) (start : Location) : List String → Except SystemError Unit × Disk
  | [] => (.ok (), disk)
  | step :: before =>
    let make (disk : Disk) : Except SystemError Disk := do
      disk.makeDirectoryAt (← disk.walk start (step :: before).reverse)
    let isThere (disk : Disk) : Bool :=
      match disk.walk start (step :: before).reverse with
      | .ok loc => disk.isDirectory loc
      | .error _ => false
    match make disk with
    | .ok disk => (.ok (), disk)
    | .error .notFound =>
      match makeAll disk start before with
      | (.error e, disk) => (.error e, disk)
      | (.ok (), disk) =>
        match make disk with
        | .ok disk => (.ok (), disk)
        | .error e => if isThere disk then (.ok (), disk) else (.error e, disk)
    | .error e => if isThere disk then (.ok (), disk) else (.error e, disk)

/-- Makes a directory, with those that lead to it, unless it is there. -/
def makeDirectories (disk : Disk) (path : String) : Except SystemError Unit × Disk :=
  if '\x00' ∈ path.toList then (.error .nulInName, disk)
  else if pathLimit < Text.size path then (.error .nameTooLong, disk)
  else disk.makeAll (disk.origin path) (Path.steps path).reverse

end BuoyGateway.Disk
