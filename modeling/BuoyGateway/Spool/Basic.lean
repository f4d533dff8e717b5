import BuoyGateway.Disk.Files
import BuoyGateway.Settings
import BuoyGateway.Log
import BuoyGateway.Spool.Record

/-!
# The spool

The modem's daemon leaves each received message as a file in the inbox, and sends each message it
finds as a file in the outbox. `Spool` is what the gateway remembers about them while it runs: the
messages it has read and not given up, the messages it has begun to write, the files it has
delivered, and its subscriptions. One counter numbers everything that gets a number.
-/

namespace BuoyGateway

/-- What the gateway runs on: a disk, a log, and whatever else there is. -/
structure Machine (ε : Type) where
  disk : Disk
  log : List LogEntry
  outside : ε

def Machine.note {ε : Type} (machine : Machine ε) (level : Level) (text : String) : Machine ε :=
  { machine with log := machine.log ++ [⟨level, text⟩] }

structure Received where
  name : String
  record : Incoming
  timestamp : String
  deriving DecidableEq, Repr

structure Draft where
  destination : Option String := none
  text : Option String := none
  deriving DecidableEq, Repr

inductive Event
  | received (ref : Ref)
  | full (storage : Storage)
  deriving DecidableEq, Repr

structure Spool where
  inbox : String
  outbox : String
  rejected : String
  capacity : Nat
  /-- The last number given out. It is as large as it has to be; a counter of 64 bits agrees with it
  until 2 ^ 64 numbers were given out. -/
  lastId : Nat := 0
  subscriptions : List (Topic × Handle) := []
  received : List (Ref × Received) := []
  drafts : List (Ref × Draft) := []
  /-- The names of the inbox files that were delivered and have been there since. -/
  delivered : List String := []
  /-- The full store has been reported and not been less than full since. -/
  fullReported : Bool := false

namespace Spool

def fresh (settings : Settings) : Spool where
  inbox := Path.join settings.spoolDir "inbox"
  outbox := Path.join settings.spoolDir "outbox"
  rejected := Path.join settings.spoolDir "rejected"
  capacity := settings.storageCapacity.toNat

def hasSubscriber (spool : Spool) (topic : Topic) : Bool :=
  spool.subscriptions.any (fun s => s.1 == topic)

/-- The message of a reference, if it was received and not given up. -/
def received? (spool : Spool) (ref : Ref) : Option Received := spool.received.lookup ref

def draft? (spool : Spool) (ref : Ref) : Option Draft := spool.drafts.lookup ref

def inboxPath (spool : Spool) (name : String) : String := Path.join spool.inbox name

def start (disk : Disk) (settings : Settings) : Except Failure Spool × Disk :=
  if settings.storageCapacity = 0 then
    (.error (.settings "storage_capacity must be at least 1"), disk)
  else
    let spool := fresh settings
    match disk.makeDirectories spool.inbox with
    | (.error e, disk) => (.error (.system e), disk)
    | (.ok (), disk) =>
      match disk.makeDirectories spool.outbox with
      | (.error e, disk) => (.error (.system e), disk)
      | (.ok (), disk) => (.ok spool, disk)

end Spool

/-- A name of a record: it ends in `.json`, after at least one character. -/
def isRecordName (name : String) : Bool :=
  5 < name.length && ".json".toList.isSuffixOf name.toList

/-- The names of the records in a directory, in the order of their names. -/
def Disk.recordNames (disk : Disk) (path : String) : Except SystemError (List String) := do
  let names ← disk.list path
  pure ((names.filter isRecordName).mergeSort (fun a b => decide (a ≤ b)))

structure Gateway (ε : Type) where
  machine : Machine ε
  spool : Spool

namespace Gateway

variable {ε : Type}

def disk (g : Gateway ε) : Disk := g.machine.disk

def withDisk (g : Gateway ε) (disk : Disk) : Gateway ε :=
  { g with machine := { g.machine with disk } }

def note (g : Gateway ε) (level : Level) (text : String) : Gateway ε :=
  { g with machine := g.machine.note level text }

end Gateway

end BuoyGateway
