import BuoyGateway.Text.Clip

/-!
# Messages and replies

A received text message and the reply to it, within the bounds of the cellular platform. The
sender and the time stamp of a message are clipped to their bounds; its text is kept whole, so
that an oversize text can be told from a command.
-/

namespace BuoyGateway

/-- Longest phone number, in octets. -/
def numberLimit : Nat := 17

/-- Longest time stamp of a message, in octets. -/
def stampLimit : Nat := 20

/-- Longest text of one message, in octets. -/
def textLimit : Nat := 160

/-- The encoding a message arrives in. Only text messages are read. -/
inductive MessageFormat
  | pdu
  | text
  | binary
  | ucs2
  | unknown
  deriving DecidableEq, Repr

def MessageFormat.name : MessageFormat → String
  | .pdu => "pdu"
  | .text => "text"
  | .binary => "binary"
  | .ucs2 => "ucs2"
  | .unknown => "unknown"

/-- Every format, in the order in which they are listed to users. -/
def MessageFormat.all : List MessageFormat := [.pdu, .text, .binary, .ucs2, .unknown]

def MessageFormat.ofName? (name : String) : Option MessageFormat :=
  MessageFormat.all.find? (fun format => format.name == name)

structure Message where
  sender : String
  timestamp : String
  text : String
  format : MessageFormat
  deriving DecidableEq, Repr

/-- A text message, its sender and time stamp clipped to their bounds. -/
def Message.received (sender timestamp text : String) : Message where
  sender := Text.clip sender numberLimit
  timestamp := Text.clip timestamp stampLimit
  text := text
  format := .text

structure Reply where
  destination : String
  text : String
  deriving DecidableEq, Repr

def Reply.compose (destination text : String) : Reply where
  destination := destination
  text := Text.clip text textLimit

/-- A number that can be dialled: digits after an optional plus sign, within the bound. -/
def isDialable (number : String) : Bool :=
  let digits := match number.toList with
    | '+' :: rest => rest
    | all => all
  !digits.isEmpty && Text.size number ≤ numberLimit && digits.all Char.isDigit

theorem MessageFormat.ofName?_name (format : MessageFormat) :
    MessageFormat.ofName? format.name = some format := by
  cases format <;> decide

end BuoyGateway
