import BuoyGateway.SystemError
import BuoyGateway.Json.Error
import BuoyGateway.Sms.Modem

/-!
# Failures

The ways in which the gateway's own operations fail, each with its wording.
-/

namespace BuoyGateway

/-- Why a message was not sent: the step that failed, and its fault. -/
inductive SendFailure
  | creation
  | destination (fault : Fault)
  | text (fault : Fault)
  | sending (fault : Fault)
  deriving DecidableEq, Repr

def SendFailure.message : SendFailure → String
  | .creation => "SMS message creation has failed"
  | .destination fault => "setting the destination has failed (" ++ fault.name ++ ")"
  | .text fault => "setting the text has failed (" ++ fault.name ++ ")"
  | .sending fault => "sending has failed (" ++ fault.name ++ ")"

inductive Failure
  | system (e : SystemError)
  | json (e : Json.Error)
  | registration (topic : Topic)
  | send (e : SendFailure)
  | settings (text : String)
  deriving DecidableEq, Repr

def Failure.message : Failure → String
  | .system e => "IO error: " ++ e.message
  | .json e => "JSON error: " ++ e.message
  | .registration topic => topic.operation ++ " has failed!"
  | .send e => "Send error: " ++ e.message
  | .settings text => "Config error: " ++ text

end BuoyGateway
