import BuoyGateway.Shell.Process

/-!
# Places

What paths lead to when a script uses them. Some locations stand for other paths, and some are
devices. Where no location stands for another path, a path leads where it leads on the disk.
-/

namespace BuoyGateway.Shell

inductive Device
  | null
  | zeros
  | full
  | terminal
  | descriptor (n : Nat)
  deriving DecidableEq, Repr

def Device.at? : Location → Option Device
  | ["null", "dev"] => some .null
  | ["zero", "dev"] | ["random", "dev"] | ["urandom", "dev"] => some .zeros
  | ["full", "dev"] => some .full
  | ["tty", "dev"] => some .terminal
  | ["stdin", "dev"] => some (.descriptor 0)
  | ["stdout", "dev"] => some (.descriptor 1)
  | ["stderr", "dev"] => some (.descriptor 2)
  | [n, "fd", "dev"] | [n, "fd", "self", "proc"] =>
    if n != "" && n.toList.all Char.isDigit then some (.descriptor (Decimal.ofDigits n.toList))
    else none
  | _ => none

namespace Process

def pathOf (s : String) : String := String.ofList (Text.decodeLossy (Text.toOctets s.toList))

def ofPath (s : String) : String := String.ofList (Text.ofOctets (Text.encode s.toList))

def pathOfLocation (loc : Location) : String :=
  "/" ++ String.intercalate "/" (loc.reverse.map ofPath)

/-- The location reached by steps from a directory. A location that stands for another path is
left by `onward`, unless the steps end there and the last step is not to be `followed`. -/
def walk (p : Process) (onward : Location → List String → Except SystemError Location)
    (followed : Bool) : Location → List String → Except SystemError Location
  | loc, [] => .ok loc
  | loc, step :: steps =>
    match p.disk.find? loc with
    | none => .error .notFound
    | some node =>
      if !node.isDirectory then .error .notDirectory
      else if step = ".." then walk p onward followed loc.tail steps
      else if Disk.nameLimit < Text.size step then .error .nameTooLong
      else
        match p.world.links.lookup (step :: loc) with
        | some target =>
          if steps.isEmpty && !followed then .ok (step :: loc)
          else onward (if Path.isAbsolute target then [] else loc) (Path.steps target ++ steps)
        | none => walk p onward followed (step :: loc) steps

/-- The location reached by steps, with so many other paths on the way at most. -/
def follow (p : Process) (followed : Bool) : Nat → Location → List String →
    Except SystemError Location
  | 0 => p.walk (fun _ _ => .error .tooManyLinks) followed
  | links + 1 => p.walk (follow p followed links) followed

def linkLimit : Nat := 40

/-- The location of a path. A path that ends with a slash is one of a directory. -/
def place (p : Process) (path : String) (followed : Bool) : Except SystemError Location :=
  let path := pathOf path
  if path.contains '\x00' then .error .nulInName
  else if path = "" then .error .notFound
  else if Disk.pathLimit < Text.size path then .error .nameTooLong
  else
    let slashed := Disk.namesDirectory path
    match p.follow (followed || slashed) linkLimit (p.disk.origin path) (Path.steps path) with
    | .error e => .error e
    | .ok loc =>
      if slashed && (p.disk.find? loc).any (fun node => !node.isDirectory) then
        .error .notDirectory
      else .ok loc

def locate (p : Process) (path : String) : Except SystemError Location := p.place path true

def locateNode (p : Process) (path : String) (followed : Bool) :
    Except SystemError (Location × Node) := do
  let loc ← p.place path followed
  match p.disk.find? loc with
  | none => throw .notFound
  | some node => pure (loc, node)

def node? (p : Process) (path : String) : Option Node :=
  (p.locateNode path true).toOption.map Prod.snd

def locateDirectory (p : Process) (path : String) : Except SystemError Location := do
  let (loc, node) ← p.locateNode path true
  if node.isDirectory then pure loc else throw .notDirectory

def isLink (p : Process) (path : String) : Bool :=
  match p.place path false with
  | .ok loc => (p.world.links.lookup loc).isSome
  | .error _ => false

/-! ### Rights -/

def modeAt (p : Process) (loc : Location) (node : Node) : Nat :=
  match p.world.modes.lookup loc with
  | some mode => mode
  | none =>
    if (p.world.links.lookup loc).isSome then 0o777
    else if loc = ["tmp"] || loc = ["tmp", "var"] then 0o1777
    else
      match node.content with
      | .directory | .file _ true => 0o755
      | .file _ false => if (Device.at? loc).isSome then 0o666 else 0o644

def setMode (p : Process) (loc : Location) (mode : Nat) : Process :=
  let disk := match p.disk.find? loc with
    | some ⟨.file octets _, modified⟩ =>
      p.disk.insert loc ⟨.file octets (mode &&& 0o111 != 0), modified⟩
    | _ => p.disk
  { p with
    disk := disk
    world := { p.world with
      modes := (loc, mode) :: p.world.modes.filter (fun m => m.1 != loc) } }

def forget (p : Process) (loc : Location) : Process :=
  { p with world := { p.world with
      modes := p.world.modes.filter (fun m => !Disk.isWithin loc m.1)
      links := p.world.links.filter (fun l => !Disk.isWithin loc l.1) } }

def instant (p : Process) : Time.Instant :=
  let nanos := p.disk.now.nanos + 1000 * p.clock
  ⟨p.disk.now.seconds + nanos / 1000000000, nanos % 1000000000⟩

def change (p : Process) (f : Disk → Except SystemError Disk) : Except SystemError Process := do
  let disk ← f { p.disk with now := p.instant }
  pure { p with disk := { disk with now := p.disk.now } }

def createAt (p : Process) (loc : Location) : Except SystemError Process := do
  let p ← p.change (fun disk => disk.createAt loc)
  let mode := 0o666 &&& (0o777 ^^^ p.mask)
  pure (if mode = 0o644 then p else p.setMode loc mode)

/-! ### Reading and writing files -/

def readPlace (p : Process) (loc : Location) : Except SystemError (List Char) :=
  match Device.at? loc with
  | some .null => .ok []
  | some .terminal => .error .noDevice
  | _ => (p.disk.readAt loc).map Text.ofOctets

def openDevice (p : Process) (device : Device) : Except SystemError (Nat ⊕ Stream) :=
  match device with
  | .null => .ok (.inr .nothing)
  | .zeros => .ok (.inr .zeros)
  | .full => .ok (.inr .full)
  | .terminal => .error .noDevice
  | .descriptor n =>
    match p.descriptors.lookup n with
    | some stream => .ok (.inl stream)
    | none => .error .notFound

/-- The stream that a path leads to: one that is there, or a new one. Writing makes the file where
there is none, and empties it unless something is appended. Files that are there are not written
over where they are to be kept. -/
def openPath (p : Process) (opening : Opening) (path : String) :
    Except SystemError ((Nat ⊕ Stream) × Process) := do
  let loc ← p.locate path
  match Device.at? loc with
  | some device => pure (← p.openDevice device, p)
  | none =>
    match opening, p.disk.find? loc with
    | .reading, none => throw .notFound
    | .reading, some _ => pure (.inr (.file loc 0 .reading), p)
    | _, some ⟨.directory, _⟩ => throw .isDirectory
    | .writing, some ⟨.file .., _⟩ =>
      if p.has .keepFiles then throw .alreadyExists
      else pure (.inr (.file loc 0 .writing), ← p.change (fun disk => disk.writeAt loc []))
    | .replacing, some ⟨.file .., _⟩ =>
      pure (.inr (.file loc 0 .writing), ← p.change (fun disk => disk.writeAt loc []))
    | opening, some ⟨.file .., _⟩ => pure (.inr (.file loc 0 opening), p)
    | opening, none => pure (.inr (.file loc 0 opening), ← p.createAt loc)

end Process

end BuoyGateway.Shell
