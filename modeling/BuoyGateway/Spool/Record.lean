import BuoyGateway.Failure
import BuoyGateway.Json.Record
import BuoyGateway.Json.Writer
import BuoyGateway.Text.Utf8

/-!
# Records of the spool

What a file of the inbox says about a received message, and what a file of the outbox says about a
message that waits to be sent. Both are JSON in UTF-8.
-/

namespace BuoyGateway

structure Incoming where
  sender : String
  timestamp : Option String
  text : String
  format : MessageFormat
  deriving DecidableEq, Repr

structure Outgoing where
  destination : String
  text : String
  queuedAt : Time.Instant
  deriving DecidableEq, Repr

def MessageFormat.reader : Json.Reader MessageFormat :=
  Json.variant (MessageFormat.all.map (fun format => (format.name, format)))

def MessageFormat.toJson (format : MessageFormat) : Json.Value := .string format.name

namespace Incoming

/-- A received message as a record. Only the sender has to be there; a message is taken for an
empty text. -/
def shape : Json.Shape Incoming where
  name := "InboxRecord"
  start := ⟨"", none, "", .text⟩
  fields :=
    [.of "sender" true (Json.string .string) (fun r sender => { r with sender }),
     .of "timestamp" false (Json.string .string).orNull (fun r timestamp => { r with timestamp }),
     .of "text" false (Json.string .string) (fun r text => { r with text }),
     .of "format" false MessageFormat.reader (fun r format => { r with format })]

/-- A received message as it is written. A time stamp that is not there is left out. -/
def toJson (r : Incoming) : Json.Value :=
  .object
    ([("sender", .string r.sender)] ++
      (r.timestamp.toList.map (fun timestamp => ("timestamp", .string timestamp))) ++
      [("text", .string r.text), ("format", r.format.toJson)])

end Incoming

namespace Outgoing

/-- A message that waits, as a record. All its fields have to be there. -/
def shape : Json.Shape Outgoing where
  name := "OutboxRecord"
  start := ⟨"", "", Time.Instant.ofSeconds 0⟩
  fields :=
    [.of "destination" true (Json.string .string) (fun r destination => { r with destination }),
     .of "text" true (Json.string .string) (fun r text => { r with text }),
     .of "queued_at" true Json.instant (fun r queuedAt => { r with queuedAt })]

def toJson (r : Outgoing) : Json.Value :=
  .object
    [("destination", .string r.destination), ("text", .string r.text),
     ("queued_at", .string (String.ofList (Time.Rfc3339.write r.queuedAt)))]

end Outgoing

def Json.Shape.ofOctets {α : Type} (shape : Json.Shape α) (octets : List UInt8) :
    Except Failure α :=
  match Text.decode? octets with
  | none => .error (.system .notUtf8)
  | some text => (shape.reader.parse text).mapError .json

end BuoyGateway
