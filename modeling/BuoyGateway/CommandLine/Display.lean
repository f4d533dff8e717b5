import BuoyGateway.Failure
import BuoyGateway.Sms.Command

/-!
# How commands and failures are shown

The command line shows a command, and a failure that ends it, by its name with its parts, texts in
quotes.
-/

namespace BuoyGateway

def Command.shown : Command → String
  | .upgrade version => "Upgrade \x7b version_code: " ++ Text.quoted version ++ " \x7d"
  | .reboot => "Reboot"
  | .sleep seconds => "Sleep \x7b seconds: " ++ Decimal.text seconds ++ " \x7d"
  | .unknown text => "Unknown \x7b raw_text: " ++ Text.quoted text ++ " \x7d"

def Fault.shown : Fault → String
  | .general => "Fault"
  | .overflow => "Overflow"
  | .badParameter => "BadParameter"
  | .notFound => "NotFound"
  | .formatError => "FormatError"
  | .unavailable => "Unavailable"

def SendFailure.shown : SendFailure → String
  | .creation => "CreationFailed"
  | .destination fault => "InvalidDestination(" ++ fault.shown ++ ")"
  | .text fault => "InvalidText(" ++ fault.shown ++ ")"
  | .sending fault => "SendFailed(" ++ fault.shown ++ ")"

/-- The class of an error that has no number. -/
def SystemError.className : SystemError → String
  | .notUtf8 => "InvalidData"
  | .nulInName | .nulInArgument => "InvalidInput"
  | _ => "Other"

def SystemError.shown (e : SystemError) : String :=
  match e.numbered? with
  | some (number, className, wording) =>
    "Os \x7b code: " ++ toString number ++ ", kind: " ++ className ++ ", message: " ++
      Text.quoted wording ++ " \x7d"
  | none =>
    match e with
    | .other text => "Custom \x7b kind: Other, error: " ++ Text.quoted text ++ " \x7d"
    | e =>
      "Error \x7b kind: " ++ e.className ++ ", message: " ++ Text.quoted e.message ++ " \x7d"

def Failure.shown : Failure → String
  | .system e => "Io(" ++ e.shown ++ ")"
  | .json _ => "Json"
  | .registration topic => "RegistrationFailed(" ++ Text.quoted topic.operation ++ ")"
  | .send e => "Send(" ++ e.shown ++ ")"
  | .settings text => "Config(" ++ Text.quoted text ++ ")"

end BuoyGateway
