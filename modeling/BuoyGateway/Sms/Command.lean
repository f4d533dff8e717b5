import BuoyGateway.Text.Clip
import BuoyGateway.Text.Blank
import BuoyGateway.Decimal.Numeral
import BuoyGateway.Sms.Message

/-!
# Commands

Every text of one message's length stands for exactly one command, tried in this order:

* `UPGRADE` and a version, the first word after the key word and one space;
* `REBOOT`, alone;
* `ULPM` and a number of seconds, an integer of 32 bits that other text may follow.

Case matters. All other texts, and all longer ones, are unknown commands. `Command.reply` is the
text sent back, which never exceeds one message.
-/

namespace BuoyGateway

/-- What a message asks the buoy to do. Any number of seconds is a command to sleep; only a
positive one leads to a sleep. -/
inductive Command
  | upgrade (version : String)
  | reboot
  | sleep (seconds : Int)
  | unknown (text : String)
  deriving DecidableEq, Repr

namespace Command

def versionLimit : Nat := 255

/-- The integer has a two's complement form of 32 bits. -/
def isSeconds (n : Int) : Bool := -2147483648 ≤ n && n ≤ 2147483647

/-- The integer that the text starts with, after blanks: an optional sign and at least one digit.
What follows the digits is ignored. -/
def leadingInteger? (s : List Char) : Option Int :=
  let (negative, s) := match Text.skipBlanks s with
    | '+' :: rest => (false, rest)
    | '-' :: rest => (true, rest)
    | rest => (false, rest)
  match s.takeWhile Char.isDigit with
  | [] => none
  | digits =>
    let magnitude : Int := Decimal.ofDigits digits
    some (if negative then -magnitude else magnitude)

def version? (s : List Char) : Option String :=
  ((Text.firstWord? s).map String.ofList).filter (fun v => Text.size v ≤ versionLimit)

def seconds? (s : List Char) : Option Int := (leadingInteger? s).filter isSeconds

/-- The well formed command that the characters spell, if they do. -/
def read? (body : List Char) : Option Command :=
  match "UPGRADE ".toList.isPrefixOf? body, "ULPM ".toList.isPrefixOf? body with
  | some rest, _ => (version? rest).map upgrade
  | none, some rest => (seconds? rest).map sleep
  | none, none => if body = "REBOOT".toList then some reboot else none

def parse (body : String) : Command :=
  if Text.size body ≤ textLimit then (read? body.toList).getD (unknown body) else unknown body

def reply (command : Command) : String :=
  let whole := match command with
    | upgrade _ => "Upgrade started"
    | reboot => "Rebooting FX30"
    | sleep seconds => "Going into ULPM for " ++ Decimal.text seconds ++ " seconds"
    | unknown text => "Unknown command '" ++ Text.clip text textLimit ++ "'"
  Text.clip whole textLimit

end Command

end BuoyGateway
