import BuoyGateway.Sms.Station

/-!
# Handling a received message

A text message is read and its command found; the reply is sent, the message deleted and given up,
and only then the command's script is launched, since it may take the buoy down before the reply
is out. Messages of other formats are only given up.
-/

namespace BuoyGateway

structure Handled where
  message : Option Message := none
  command : Option Command := none
  reply : Option Reply := none
  replySent : Bool := false
  deleted : Bool := false
  action : Option Action := none
  deriving DecidableEq, Repr

namespace Station

variable {σ : Type}

def readPart (st : Station σ) (operation : String) (shown : String → String) :
    Except Fault String → StateM σ (Option String)
  | .ok value => do
    st.info (shown value)
    pure (some value)
  | .error fault => do
    st.error (operation ++ " has failed (" ++ fault.name ++ ")!")
    pure none

/-- Replies to a sender, as far as sender and command are known. -/
def answer (st : Station σ) (sender : Option String) (command : Option Command) :
    StateM σ (Option Reply × Bool) := do
  match sender, command with
  | some sender, some command =>
    let reply := Reply.compose sender command.reply
    match ← st.sendReply reply with
    | .ok () =>
      st.info "The message has been successfully sent."
      pure (some reply, true)
    | .error e =>
      st.error ("send_reply has failed (" ++ e.message ++ ")!")
      pure (some reply, false)
  | _, _ =>
    st.warn "No reply sent: sender or text could not be read"
    pure (none, false)

def discard (st : Station σ) (ref : Ref) : StateM σ Bool := do
  match ← st.modem.delete ref with
  | .ok () =>
    st.info "the message has been successfully deleted from storage."
    pure true
  | .error fault =>
    st.error ("delete_from_storage has failed (" ++ fault.name ++ ")!")
    pure false

def answerText (st : Station σ) (ref : Ref) : StateM σ Handled := do
  let sender ← st.readPart "sender_tel" (fun sender => "Message is received from " ++ sender ++ ".")
    (← st.modem.sender ref)
  let timestamp ← st.readPart "timestamp"
    (fun timestamp => "Message timestamp is " ++ timestamp ++ ".") (← st.modem.timestamp ref)
  let text ← st.readPart "text" (fun text => "Message content: \"" ++ text ++ "\"")
    (← st.modem.text ref)
  let command := text.map Command.parse
  let message := text.map (Message.received (sender.getD "") (timestamp.getD ""))
  let (reply, replySent) ← st.answer sender command
  let deleted ← st.discard ref
  pure { message, command, reply, replySent, deleted }

def handle (st : Station σ) (settings : Settings) (ref : Ref) : StateM σ Handled := do
  st.info ("A New SMS message is received with ref." ++ toString ref)
  let handled ←
    if (← st.modem.format ref) = .text then st.answerText ref
    else do
      st.warn "Warning! I read only Text messages!"
      pure {}
  st.modem.release ref
  match handled.command with
  | none => pure handled
  | some command => pure { handled with action := ← st.perform settings command }

def handleFull (st : Station σ) (storage : Storage) : StateM σ Unit :=
  st.info ("A Full storage SMS message is received. Type of full storage " ++ storage.name)

end Station

end BuoyGateway
