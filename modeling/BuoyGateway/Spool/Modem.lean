import BuoyGateway.Spool.Outbox
import BuoyGateway.Sms.Station

/-!
# The spool as a modem

The operations of a modem on the files of a spool. What was read of a message is kept until the
message is given up, whatever becomes of its file.
-/

namespace BuoyGateway

namespace Spool

def subscribe (spool : Spool) (topic : Topic) : Handle × Spool :=
  (spool.lastId + 1,
    { spool with
      lastId := spool.lastId + 1
      subscriptions := (topic, spool.lastId + 1) :: spool.subscriptions })

def unsubscribe (spool : Spool) (topic : Topic) (handle : Handle) : Spool :=
  { spool with
    subscriptions := spool.subscriptions.filter (fun s => s != (topic, handle)) }

def format (spool : Spool) (ref : Ref) : MessageFormat :=
  match spool.received? ref with
  | some message => message.record.format
  | none => .unknown

/-- The sender of a message that was received, unless it is longer than a phone number. -/
def sender (spool : Spool) (ref : Ref) : Except Fault String :=
  match spool.received? ref with
  | some message =>
    if numberLimit < Text.size message.record.sender then .error .overflow
    else .ok message.record.sender
  | none => .error .notFound

def timestamp (spool : Spool) (ref : Ref) : Except Fault String :=
  match spool.received? ref with
  | some message => .ok message.timestamp
  | none => .error .notFound

/-- The whole text of a message that was received, however long. -/
def text (spool : Spool) (ref : Ref) : Except Fault String :=
  match spool.received? ref with
  | some message => .ok message.record.text
  | none => .error .notFound

def release (spool : Spool) (ref : Ref) : Spool :=
  { spool with
    received := spool.received.filter (fun entry => entry.1 != ref)
    drafts := spool.drafts.filter (fun entry => entry.1 != ref) }

def create (spool : Spool) : Ref × Spool :=
  (spool.lastId + 1,
    { spool with
      lastId := spool.lastId + 1
      drafts := (spool.lastId + 1, {}) :: spool.drafts })

def edit (spool : Spool) (ref : Ref) (change : Draft → Except Fault Draft) :
    Except Fault Unit × Spool :=
  match spool.draft? ref with
  | none => (.error .notFound, spool)
  | some draft =>
    match change draft with
    | .error fault => (.error fault, spool)
    | .ok draft =>
      (.ok (), { spool with
        drafts := (ref, draft) :: spool.drafts.filter (fun entry => entry.1 != ref) })

def setDestination (spool : Spool) (ref : Ref) (destination : String) :
    Except Fault Unit × Spool :=
  spool.edit ref (fun draft =>
    if isDialable destination then .ok { draft with destination := some destination }
    else .error .badParameter)

def setText (spool : Spool) (ref : Ref) (text : String) : Except Fault Unit × Spool :=
  spool.edit ref (fun draft =>
    if textLimit < Text.size text then .error .overflow
    else .ok { draft with text := some text })

def finished (spool : Spool) (ref : Ref) : Except Fault (String × String) :=
  match spool.draft? ref with
  | none => .error .notFound
  | some ⟨some destination, some text⟩ => .ok (destination, text)
  | some _ => .error .formatError

end Spool

namespace Gateway

variable {ε : Type}

def onSpool {α : Type} (f : Spool → α × Spool) : StateM (Gateway ε) α :=
  modifyGet (fun g => ((f g.spool).1, { g with spool := (f g.spool).2 }))

def delete (ref : Ref) : StateM (Gateway ε) (Except Fault Unit) := do
  let g ← get
  match g.spool.received? ref with
  | none => pure (.error .notFound)
  | some message =>
    let removed : Except SystemError Disk := do
      g.disk.removeAt (message.name :: (← g.disk.locateDirectory g.spool.inbox))
    match removed with
    | .ok disk =>
      set (g.withDisk disk)
      pure (.ok ())
    | .error e =>
      set (g.note .warning
        ("Could not remove " ++ g.spool.inboxPath message.name ++ ": " ++ e.message))
      pure (.error .general)

def send (ref : Ref) : StateM (Gateway ε) (Except Fault Unit) := do
  let g ← get
  match g.spool.finished ref with
  | .error fault => pure (.error fault)
  | .ok (destination, text) =>
    match g.disk.queue g.spool.outbox ref ⟨destination, text, g.disk.now⟩ with
    | (.ok (), disk) =>
      set (g.withDisk disk)
      pure (.ok ())
    | (.error e, disk) =>
      set ((g.withDisk disk).note .warning
        ("Could not queue message ref." ++ toString ref ++ ": " ++ (Failure.system e).message))
      pure (.error .general)

def modem : Modem (Gateway ε) where
  subscribe topic := some <$> onSpool (fun spool => spool.subscribe topic)
  unsubscribe topic handle := onSpool (fun spool => ((), spool.unsubscribe topic handle))
  format ref := onSpool (fun spool => (spool.format ref, spool))
  sender ref := onSpool (fun spool => (spool.sender ref, spool))
  timestamp ref := onSpool (fun spool => (spool.timestamp ref, spool))
  text ref := onSpool (fun spool => (spool.text ref, spool))
  delete := delete
  release ref := onSpool (fun spool => ((), spool.release ref))
  create := some <$> onSpool Spool.create
  setDestination ref destination := onSpool (fun spool => spool.setDestination ref destination)
  setText ref text := onSpool (fun spool => spool.setText ref text)
  send := send

def station (launch : Action → StateM (Machine ε) Report) : Station (Gateway ε) where
  launch action := fun g =>
    let (report, machine) := launch action g.machine
    (report, { g with machine })
  log entry := modify (fun g => g.note entry.level entry.text)
  modem := modem

end Gateway

end BuoyGateway
