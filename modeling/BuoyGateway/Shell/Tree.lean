import BuoyGateway.Shell.Place

/-!
# Changing the tree of files

Files and directories are made, removed and moved by processes. What is known about rights and about
paths that locations stand for goes with them. Changes are made at the time that it is for the
process.
-/

namespace BuoyGateway.Shell.Process

def nameBefore (a b : String) : Bool := decide (a ≤ b)

def namesAt (p : Process) (loc : Location) : List String :=
  ((p.disk.names loc).map ofPath).mergeSort nameBefore

def linkAt? (p : Process) (loc : Location) : Option String := p.world.links.lookup loc

/-- The location is that of a directory, and stands for no other path. -/
def isDirectoryAt (p : Process) (loc : Location) : Bool :=
  p.disk.isDirectory loc && (p.linkAt? loc).isNone

def makeDirectoryAt (p : Process) (loc : Location) (mode : Nat) : Except SystemError Process := do
  let p := ← p.change (fun disk => disk.makeDirectoryAt loc)
  pure (if mode = 0o755 then p else p.setMode loc mode)

def directoryMode (p : Process) : Nat := 0o777 &&& (0o777 ^^^ p.mask)

def makeLinkAt (p : Process) (loc : Location) (target : String) : Except SystemError Process := do
  let p := ← p.change (fun disk => disk.createAt loc)
  pure { p with world := { p.world with links := (loc, pathOf target) :: p.world.links } }

def removeFileAt (p : Process) (loc : Location) : Except SystemError Process := do
  pure ((← p.change (fun disk => disk.removeAt loc)).forget loc)

def removeDirectoryAt (p : Process) (loc : Location) : Except SystemError Process := do
  if !p.isDirectoryAt loc then throw .notDirectory
  if !(p.disk.names loc).isEmpty then throw .notEmpty
  if loc = [] then throw .busy
  let p ← p.change (fun disk => do
    disk.permit .remove loc
    pure ((disk.erase loc).stamp loc.tail))
  pure (p.forget loc)

def renameAt (p : Process) (source target : Location) : Except SystemError Process := do
  let p ← p.change (fun disk => disk.renameAt source target)
  if source = target then pure p
  else
    let move {α : Type} (l : List (Location × α)) : List (Location × α) :=
      (l.filter (fun e => !Disk.isWithin target e.1)).map (fun e =>
        if Disk.isWithin source e.1 then (Disk.relocate source target e.1, e.2) else e)
    pure { p with
      world := { p.world with modes := move p.world.modes, links := move p.world.links } }

def touchAt (p : Process) (loc : Location) (time : Time.Instant) : Process :=
  match p.disk.entries.lookup loc with
  | some node => { p with disk := p.disk.insert loc { node with modified := time } }
  | none => p

end BuoyGateway.Shell.Process
