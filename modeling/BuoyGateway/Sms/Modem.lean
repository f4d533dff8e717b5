import BuoyGateway.Sms.Message

/-!
# Modems

What the gateway asks of the telephony of its host. A modem is a record of operations on a state
of any type, so that what is said about the gateway holds for every modem, whatever it answers.
-/

namespace BuoyGateway

inductive Fault
  | general
  | overflow
  | badParameter
  | notFound
  | formatError
  | unavailable
  deriving DecidableEq, Repr

def Fault.name : Fault → String
  | .general => "fault"
  | .overflow => "overflow"
  | .badParameter => "bad_parameter"
  | .notFound => "not_found"
  | .formatError => "format_error"
  | .unavailable => "unavailable"

def Fault.all : List Fault :=
  [.general, .overflow, .badParameter, .notFound, .formatError, .unavailable]

inductive Storage
  | none
  | nv
  | sim
  deriving DecidableEq, Repr

def Storage.name : Storage → String
  | .none => "none"
  | .nv => "nv"
  | .sim => "sim"

/-- What one can subscribe to: received messages, and notices that a store is full. -/
inductive Topic
  | messages
  | storage
  deriving DecidableEq, Repr

def Topic.operation : Topic → String
  | .messages => "add_rx_message_handler"
  | .storage => "add_full_storage_handler"

abbrev Handle := Nat

abbrev Ref := Nat

/-- The operations of a modem whose state has type `σ`. -/
structure Modem (σ : Type) where
  /-- Subscribes to a topic; none when the host refuses. -/
  subscribe : Topic → StateM σ (Option Handle)
  unsubscribe : Topic → Handle → StateM σ Unit
  format : Ref → StateM σ MessageFormat
  sender : Ref → StateM σ (Except Fault String)
  timestamp : Ref → StateM σ (Except Fault String)
  text : Ref → StateM σ (Except Fault String)
  delete : Ref → StateM σ (Except Fault Unit)
  release : Ref → StateM σ Unit
  /-- Begins a message to be sent; none when the host cannot. -/
  create : StateM σ (Option Ref)
  setDestination : Ref → String → StateM σ (Except Fault Unit)
  setText : Ref → String → StateM σ (Except Fault Unit)
  send : Ref → StateM σ (Except Fault Unit)

end BuoyGateway
