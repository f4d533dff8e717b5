/-!
# The log

What the gateway tells its operator, one line at a time, in three degrees of gravity.
-/

namespace BuoyGateway

inductive Level
  | info
  | warning
  | error
  deriving DecidableEq, Repr

def Level.name : Level → String
  | .info => "INFO"
  | .warning => "WARN"
  | .error => "ERROR"

structure LogEntry where
  level : Level
  text : String
  deriving DecidableEq, Repr

def LogEntry.line (entry : LogEntry) : String := entry.level.name ++ " " ++ entry.text

/-- A character of the log as a terminal may see it: a character that could begin a command to a
terminal is shown by its number. -/
def terminalChar (c : Char) : List Char :=
  let digits := Nat.toDigits 16 c.toNat
  if c ∈ ['\x07', '\x08', '\x0c', '\x1b', '\x7f'] then ['\\', 'x'] ++ digits.leftpad 2 '0'
  else if '\u0080' ≤ c && c ≤ '\u009f' then ['\\', 'u', '\x7b'] ++ digits ++ ['\x7d']
  else [c]

def LogEntry.printed (entry : LogEntry) : LogEntry :=
  { entry with text := String.ofList (entry.text.toList.flatMap terminalChar) }

end BuoyGateway
