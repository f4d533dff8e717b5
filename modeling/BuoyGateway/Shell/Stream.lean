import BuoyGateway.Shell.Place

/-!
# Reading and writing on descriptors

A descriptor leads to a stream. What is written on a channel to the outside is kept with the time
at which it was written; who reads what was written into a pipe has waited for it.
-/

namespace BuoyGateway.Shell.Process

def stream? (p : Process) (descriptor : Nat) : Option (Nat × Stream) :=
  (p.descriptors.lookup descriptor).bind (fun n => (p.world.streams.lookup n).map (fun s => (n, s)))

def setStream (p : Process) (n : Nat) (stream : Stream) : Process :=
  { p with world := { p.world with
      streams := (n, stream) :: p.world.streams.filter (fun entry => entry.1 != n) } }

def addStream (p : Process) (stream : Stream) : Nat × Process :=
  (p.world.lastStream + 1,
    { p with world := { p.world with
        lastStream := p.world.lastStream + 1
        streams := (p.world.lastStream + 1, stream) :: p.world.streams } })

def dropStream (p : Process) (n : Nat) : Process :=
  { p with world := { p.world with
      streams := p.world.streams.filter (fun entry => entry.1 != n) } }

def connect (p : Process) (descriptor : Nat) (target : Option Nat) : Process :=
  let others := p.descriptors.filter (fun entry => entry.1 != descriptor)
  { p with descriptors := (target.map (fun n => (descriptor, n))).toList ++ others }

def openStream (p : Process) (descriptor : Nat) (stream : Stream) : Process :=
  let (n, p) := p.addStream stream
  p.connect descriptor (some n)

def overlay (octets : List UInt8) (offset : Nat) (more : List UInt8) : List UInt8 :=
  if offset = octets.length then octets ++ more
  else
    (octets ++ List.replicate (offset - octets.length) 0).take offset ++ more ++
      octets.drop (offset + more.length)

def write (p : Process) (descriptor : Nat) (text : List Char) : Except SystemError Process :=
  match p.stream? descriptor with
  | none => .error .badDescriptor
  | some (_, .nothing) | some (_, .zeros) => .ok p
  | some (_, .full) => if text.isEmpty then .ok p else .error .noSpace
  | some (_, .channel channel) =>
    if text.isEmpty then .ok p
    else
      let writing : Writing := ⟨p.clock, p.numbers, channel, Text.toOctets text⟩
      .ok { p with world := { p.world with writings := writing :: p.world.writings } }
  | some (n, .pipe front back) => .ok (p.setStream n (.pipe front (⟨p.clock, text⟩ :: back)))
  | some (n, .file loc offset opening) => do
    if opening == .reading then throw .badDescriptor
    if text.isEmpty then pure p
    else
      let before ← p.disk.readAt loc
      let more := Text.toOctets text
      let offset := if opening == .appending then before.length else offset
      let p ← p.change (fun disk => disk.writeAt loc (overlay before offset more))
      pure (p.setStream n (.file loc (offset + more.length) opening))

def say (p : Process) (descriptor : Nat) (text : List Char) : Process :=
  match p.write descriptor text with
  | .ok p => p
  | .error _ => p

def complain (p : Process) (text : String) : Process :=
  let context := match p.context with
    | some name => name ++ ": "
    | none => ""
  p.say 2 (p.name ++ ": " ++ Signal.numeral p.line ++ ": " ++ context ++ text ++ "\n").toList

/-- The characters of chunks up to an end of a line: the line, whether it was ended, when its last
chunk was written, and what follows. -/
def lineOfChunks : List Chunk → List Char × Bool × Nat × List Chunk
  | [] => ([], false, 0, [])
  | chunk :: chunks =>
    let line := chunk.text.takeWhile (fun c => c != '\n')
    match chunk.text.drop line.length with
    | _ :: rest =>
      (line, true, chunk.time, if rest.isEmpty then chunks else ⟨chunk.time, rest⟩ :: chunks)
    | [] =>
      let (more, ended, time, rest) := lineOfChunks chunks
      (line ++ more, ended, max chunk.time time, rest)

def chunksOf (front back : List Chunk) : List Chunk :=
  if back.isEmpty then front else front ++ back.reverse

def endlessRead : Nat := 1048576

def readAll (p : Process) (descriptor : Nat) : Except SystemError (List Char × Process) :=
  match p.stream? descriptor with
  | none | some (_, .channel _) => .error .badDescriptor
  | some (_, .nothing) => .ok ([], p)
  | some (_, .zeros) | some (_, .full) => .ok (List.replicate endlessRead '\x00', p)
  | some (n, .pipe front back) =>
    let chunks := chunksOf front back
    let p := chunks.foldl (fun p chunk => p.waitUntil chunk.time) p
    .ok (chunks.flatMap Chunk.text, p.setStream n (.pipe [] []))
  | some (n, .file loc offset opening) => do
    if opening != .reading && opening != .both then throw .badDescriptor
    let octets ← p.disk.readAt loc
    pure (Text.ofOctets (octets.drop offset),
      p.setStream n (.file loc (max offset octets.length) opening))

def giveBack (p : Process) (descriptor : Nat) (text : List Char) : Process :=
  match p.stream? descriptor with
  | some (n, .pipe front back) => p.setStream n (.pipe (⟨p.clock, text⟩ :: front) back)
  | some (n, .file loc offset opening) =>
    p.setStream n (.file loc (offset - text.length) opening)
  | _ => p

def readLine (p : Process) (descriptor : Nat) :
    Except SystemError (List Char × Bool × Process) :=
  match p.stream? descriptor with
  | some (n, .pipe front back) =>
    let (line, ended, time, rest) := lineOfChunks (chunksOf front back)
    .ok (line, ended, (p.waitUntil time).setStream n (.pipe rest []))
  | _ => do
    let (text, p) ← p.readAll descriptor
    let line := text.takeWhile (fun c => c != '\n')
    match text.drop line.length with
    | _ :: rest => pure (line, true, p.giveBack descriptor rest)
    | [] => pure (line, false, p)

end BuoyGateway.Shell.Process
