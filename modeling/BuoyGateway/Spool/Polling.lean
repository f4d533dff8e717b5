import BuoyGateway.Spool.Basic

/-!
# Looking at the inbox

A look at the inbox delivers every record in it that has not been delivered since it came, in the
order of names, and reports when the store is full. A record counts as delivered only once it could
be read, since the daemon may still be writing it; one that stays unreadable is moved aside.
-/

namespace BuoyGateway

namespace Spool

/-- Forgets the delivered files that are no longer there. -/
def prune (spool : Spool) (names : List String) : Spool :=
  { spool with delivered := spool.delivered.filter (fun name => names.contains name) }

/-- Reports a full store, once for each time that it fills up. -/
def noticeFull (spool : Spool) (count : Nat) : List Event × Spool :=
  if count < spool.capacity then ([], { spool with fullReported := false })
  else if !spool.fullReported && spool.hasSubscriber .storage then
    ([.full .sim], { spool with fullReported := true })
  else ([], spool)

def receive (spool : Spool) (message : Received) : Spool :=
  { spool with
    lastId := spool.lastId + 1
    received := (spool.lastId + 1, message) :: spool.received
    delivered := message.name :: spool.delivered }

end Spool

/-- How long an unreadable file is left alone, in nanoseconds. -/
def graceNanos : Int := 60 * Time.Instant.nanosPerSecond

namespace Gateway

variable {ε : Type}

def modified (g : Gateway ε) (name : String) : Except SystemError Time.Instant := do
  g.disk.modifiedAt (name :: (← g.disk.locateDirectory g.spool.inbox))

def readIncoming (g : Gateway ε) (name : String) : Except Failure Incoming := do
  let octets ← ((do
    g.disk.readAt (name :: (← g.disk.locateDirectory g.spool.inbox))).mapError Failure.system)
  Incoming.shape.ofOctets octets

def fileStamp (g : Gateway ε) (name : String) : String :=
  match g.modified name with
  | .ok t => t.modemStamp
  | .error _ => g.disk.now.modemStamp

def isStale (g : Gateway ε) (name : String) : Bool :=
  match g.modified name with
  | .ok t => graceNanos ≤ g.disk.now.toNanos - t.toNanos
  | .error _ => false

def moveAside (g : Gateway ε) (name : String) : Except SystemError Unit × Disk :=
  match g.disk.makeDirectories g.spool.rejected with
  | (.error e, disk) => (.error e, disk)
  | (.ok (), disk) =>
    let moved : Except SystemError Disk := do
      let inbox ← disk.locateDirectory g.spool.inbox
      let rejected ← disk.locateDirectory g.spool.rejected
      disk.renameAt (name :: inbox) (name :: rejected)
    match moved with
    | .ok disk => (.ok (), disk)
    | .error e => (.error e, disk)

/-- Moves an unreadable file aside if it is stale, and leaves it for the next look if not. -/
def rejectIfStale (g : Gateway ε) (name : String) (why : Failure) : Gateway ε :=
  if g.isStale name then
    let path := g.spool.inboxPath name
    let g := g.note .warning ("Rejecting unreadable spool file " ++ path ++ ": " ++ why.message)
    match g.moveAside name with
    | (.ok (), disk) => g.withDisk disk
    | (.error e, disk) =>
      (g.withDisk disk).note .warning
        ("Could not move " ++ path ++ " aside: " ++ (Failure.system e).message)
  else g

def pollFile (name : String) : StateM (Gateway ε) (List Event) := do
  let g ← get
  if g.spool.delivered.contains name then pure []
  else
    match g.readIncoming name with
    | .error why =>
      set (g.rejectIfStale name why)
      pure []
    | .ok record =>
      let spool := g.spool.receive ⟨name, record, record.timestamp.getD (g.fileStamp name)⟩
      set { g with spool }
      pure [.received spool.lastId]

def pollFiles : List String → StateM (Gateway ε) (List Event)
  | [] => pure []
  | name :: names => do
    let events ← pollFile name
    pure (events ++ (← pollFiles names))

/-- Looks at the inbox. Nobody is told of messages, and no file is touched, unless somebody
subscribes to messages. -/
def poll : StateM (Gateway ε) (Except Failure (List Event)) := do
  let g ← get
  match g.disk.recordNames g.spool.inbox with
  | .error e => pure (.error (.system e))
  | .ok names =>
    let (full, spool) := (g.spool.prune names).noticeFull names.length
    set { g with spool }
    if spool.hasSubscriber .messages then pure (.ok (full ++ (← pollFiles names)))
    else pure (.ok full)

end Gateway

end BuoyGateway
