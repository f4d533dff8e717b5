import BuoyGateway.Failure
import BuoyGateway.Launch.Action

/-!
# Sending and subscribing

A station is a platform with a modem. Sending a message takes four steps on the modem; the message
is given up at the end whichever of them fails. `Subscriptions` holds the handles that a station
has been given, at most one for each topic.
-/

namespace BuoyGateway

structure Station (σ : Type) extends Platform σ where
  modem : Modem σ

namespace Station

variable {σ : Type}

def check (st : Station σ) (step : String) (failure : Fault → SendFailure) :
    Except Fault Unit → StateM σ (Except SendFailure Unit)
  | .ok () => pure (.ok ())
  | .error fault => do
    st.error (step ++ " has failed (" ++ fault.name ++ ")!")
    pure (.error (failure fault))

/-- Fills in a message that was begun, and sends it. The first step that fails is the last one
tried. -/
def fillAndSend (st : Station σ) (ref : Ref) (destination text : String) :
    StateM σ (Except SendFailure Unit) := do
  match ← st.check "set_destination" .destination (← st.modem.setDestination ref destination) with
  | .error e => pure (.error e)
  | .ok () =>
    match ← st.check "set_text" .text (← st.modem.setText ref text) with
    | .error e => pure (.error e)
    | .ok () =>
      match ← st.check "send" .sending (← st.modem.send ref) with
      | .error e => pure (.error e)
      | .ok () =>
        st.info ("\"" ++ text ++ "\" has been successfully sent to " ++ destination ++ ".")
        pure (.ok ())

def sendMessage (st : Station σ) (destination text : String) :
    StateM σ (Except SendFailure Unit) := do
  match ← st.modem.create with
  | none =>
    st.error "SMS message creation has failed!"
    pure (.error .creation)
  | some ref =>
    let result ← st.fillAndSend ref destination text
    st.modem.release ref
    pure result

def sendReply (st : Station σ) (reply : Reply) : StateM σ (Except SendFailure Unit) :=
  st.sendMessage reply.destination reply.text

end Station

structure Subscriptions where
  messages : Option Handle := none
  storage : Option Handle := none
  deriving DecidableEq, Repr

namespace Subscriptions

def get (held : Subscriptions) : Topic → Option Handle
  | .messages => held.messages
  | .storage => held.storage

def set (held : Subscriptions) (handle : Option Handle) : Topic → Subscriptions
  | .messages => { held with messages := handle }
  | .storage => { held with storage := handle }

def holds (held : Subscriptions) (topic : Topic) : Bool := (held.get topic).isSome

theorem get_set (held : Subscriptions) (handle : Option Handle) (topic other : Topic) :
    (held.set handle topic).get other = if other = topic then handle else held.get other := by
  cases topic <;> cases other <;> rfl

end Subscriptions

namespace Station

variable {σ : Type}

/-- Subscribes to a topic. A handle that was held before is kept if the host refuses. -/
def register (st : Station σ) (topic : Topic) (held : Subscriptions) :
    StateM σ (Except Failure Unit × Subscriptions) := do
  match ← st.modem.subscribe topic with
  | some handle => pure (.ok (), held.set (some handle) topic)
  | none =>
    st.error (topic.operation ++ " has failed!")
    pure (.error (.registration topic), held)

/-- Gives back the handle that is held for a topic, if there is one. -/
def unregister (st : Station σ) (topic : Topic) (held : Subscriptions) :
    StateM σ Subscriptions := do
  match held.get topic with
  | none => pure held
  | some handle =>
    st.modem.unsubscribe topic handle
    pure (held.set none topic)

end Station

end BuoyGateway
