import BuoyGateway.Spool.Modem
import BuoyGateway.Spool.Polling
import BuoyGateway.Sms.Handling

/-!
# Watching the inbox

The gateway subscribes to both topics, looks at the inbox in passes and attends to every event of a
pass, until it is told to stop or after one pass. Then it gives both subscriptions back. A look
that fails costs its own pass only. `Surroundings` is what the gateway meets while it watches:
scripts that run, a wish to stop, and whatever happens between two passes.
-/

namespace BuoyGateway

/-- What the gateway meets while it watches. -/
structure Surroundings (ε : Type) where
  launch : Action → StateM (Machine ε) Report
  isStopped : Machine ε → Bool
  pause : Machine ε → Machine ε

inductive Attended
  | handled (handled : Handled)
  | full (storage : Storage)
  deriving DecidableEq, Repr

namespace Gateway

variable {ε : Type}

def attend (st : Station (Gateway ε)) (settings : Settings) :
    Event → StateM (Gateway ε) Attended
  | .received ref => .handled <$> st.handle settings ref
  | .full storage => do
    st.handleFull storage
    pure (.full storage)

def attendAll (st : Station (Gateway ε)) (settings : Settings) :
    List Event → StateM (Gateway ε) (List Attended)
  | [] => pure []
  | event :: events => do
    let attended ← attend st settings event
    pure (attended :: (← attendAll st settings events))

def pass (st : Station (Gateway ε)) (settings : Settings) :
    StateM (Gateway ε) (Except Failure (List Attended)) := do
  match ← poll with
  | .error e => pure (.error e)
  | .ok events => .ok <$> attendAll st settings events

/-- Passes until the gateway is told to stop, or one pass only; at most `limit` of them. It says
whether the gateway has come to its end. -/
def passes (world : Surroundings ε) (settings : Settings) (once : Bool) :
    Nat → StateM (Gateway ε) Bool
  | 0 => pure false
  | limit + 1 => do
    let st := station world.launch
    if let .error e := ← pass st settings then
      st.error ("Failed to poll the SMS spool: " ++ e.message)
    if once || world.isStopped (← get).machine then pure true
    else
      modify (fun g => { g with machine := world.pause g.machine })
      passes world settings once limit

/-- What came of watching: it ended, well or not, or goes on after the passes that were looked
at. -/
inductive Watched
  | ended (result : Except Failure Unit)
  | watching

def watch (world : Surroundings ε) (settings : Settings) (once : Bool) (limit : Nat)
    (held : Subscriptions) : StateM (Gateway ε) (Watched × Subscriptions) := do
  let st := station world.launch
  match ← st.register .messages held with
  | (.error e, held) => pure (.ended (.error e), held)
  | (.ok (), held) =>
    match ← st.register .storage held with
    | (.error e, held) => pure (.ended (.error e), ← st.unregister .messages held)
    | (.ok (), held) =>
      st.info ("Watching " ++ (← get).spool.inbox)
      if ← passes world settings once limit then
        let held ← st.unregister .messages held
        pure (.ended (.ok ()), ← st.unregister .storage held)
      else pure (.watching, held)

end Gateway

end BuoyGateway
