import BuoyGateway.Spool.Basic

/-!
# The outbox

A message is queued as a file whose name begins with the time and ends with the number of the
message, so that names sort by time and no two messages share one. The file is written under a
temporary name first and appears under its own name whole or not at all.
-/

namespace BuoyGateway

namespace Disk

def freshName (disk : Disk) (dir : Location) : String :=
  let names := disk.names dir
  let candidates := (List.range (names.length + 1)).map
    (fun k => ".tmp" ++ String.ofList (Decimal.digits k))
  (candidates.find? (fun name => !names.contains name)).getD ".tmp"

def syncAt (disk : Disk) (loc : Location) : Except SystemError Disk := do
  disk.permit .sync loc
  pure disk

/-- Removes a temporary file. A failure to do so is not noticed. -/
def drop (disk : Disk) (loc : Location) : Disk :=
  match disk.removeAt loc with
  | .ok disk => disk
  | .error _ => disk

/-- Writes a file under a temporary name and then gives it its own. -/
def writeWhole (disk : Disk) (dir : Location) (name : String) (octets : List UInt8) :
    Except SystemError Unit × Disk :=
  let temporary := disk.freshName dir :: dir
  match disk.createAt temporary with
  | .error e => (.error e, disk)
  | .ok created =>
    match created.writeAt temporary octets with
    | .error e => (.error e, created.drop temporary)
    | .ok written =>
      match (do (← written.syncAt temporary).renameAt temporary (name :: dir)) with
      | .error e => (.error e, written.drop temporary)
      | .ok disk => (.ok (), disk)

end Disk

def Outgoing.fileName (r : Outgoing) (ref : Ref) : String :=
  String.ofList (r.queuedAt.fileStamp ++ ['-'] ++ Decimal.padded 6 ref ++ ".json".toList)

def Outgoing.octets (r : Outgoing) : List UInt8 := Text.encode r.toJson.pretty

def Disk.queue (disk : Disk) (outbox : String) (ref : Ref) (r : Outgoing) :
    Except SystemError Unit × Disk :=
  match disk.locateDirectory outbox with
  | .error e => (.error e, disk)
  | .ok dir => disk.writeWhole dir (r.fileName ref) r.octets

def Disk.readOutgoing (disk : Disk) (dir : Location) (name : String) : Except Failure Outgoing := do
  let octets ← (disk.readAt (name :: dir)).mapError Failure.system
  Outgoing.shape.ofOctets octets

/-- The messages in the outbox, in the order of the names of their files. -/
def Disk.readOutbox (disk : Disk) (outbox : String) : Except Failure (List Outgoing) := do
  let dir ← (disk.locateDirectory outbox).mapError Failure.system
  let names ← (disk.recordNames outbox).mapError Failure.system
  names.mapM (disk.readOutgoing dir)

end BuoyGateway
