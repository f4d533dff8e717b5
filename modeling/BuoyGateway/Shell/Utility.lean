import BuoyGateway.Shell.Utility.Calculating
import BuoyGateway.Shell.Utility.Characters
import BuoyGateway.Shell.Utility.Comparing
import BuoyGateway.Shell.Utility.Digest
import BuoyGateway.Shell.Utility.Dumping
import BuoyGateway.Shell.Utility.Editor
import BuoyGateway.Shell.Utility.Encoding
import BuoyGateway.Shell.Utility.Fields
import BuoyGateway.Shell.Utility.Finding
import BuoyGateway.Shell.Utility.Joining
import BuoyGateway.Shell.Utility.Launching
import BuoyGateway.Shell.Utility.Machine
import BuoyGateway.Shell.Utility.Matching
import BuoyGateway.Shell.Utility.Portions
import BuoyGateway.Shell.Utility.Ruling
import BuoyGateway.Shell.Utility.Text

/-!
# The utilities

All utilities by their names.
-/

namespace BuoyGateway.Shell.Utility

def all : List (String × Utility) :=
  [("true", constant 0), ("false", constant 1), ("echo", echo), ("printf", printf), ("yes", yes),
   ("test", test), ("[", bracket), ("seq", seq), ("expr", expr), ("sleep", sleep),
   ("env", env), ("printenv", printenv), ("nohup", nohup), ("nice", nice), ("timeout", timeout),
   ("setsid", setsid), ("stdbuf", stdbuf), ("which", which), ("xargs", xargs),
   ("id", id), ("whoami", line "root"), ("uname", uname), ("arch", line "x86_64"),
   ("hostname", line "buoy"), ("nproc", line "1"), ("tty", tty), ("logname", logname),
   ("date", date),
   ("cat", cat), ("tac", tac), ("rev", rev), ("tee", tee), ("head", head), ("tail", tail),
   ("wc", wc), ("nl", nl), ("fold", fold), ("expand", expand), ("paste", paste),
   ("sort", sort), ("uniq", uniq), ("cut", cut), ("comm", comm), ("join", join), ("tr", tr),
   ("od", od), ("cmp", cmp), ("diff", diff),
   ("basename", basename), ("dirname", dirname), ("readlink", readlink), ("realpath", realpath),
   ("pwd", pwd), ("mktemp", mktemp), ("ls", ls), ("stat", stat), ("find", find),
   ("touch", touch), ("mkdir", mkdir), ("rmdir", rmdir), ("rm", rm),
   ("unlink", unlink), ("cp", cp), ("mv", mv), ("ln", ln), ("chmod", chmod),
   ("grep", grep), ("egrep", egrep), ("fgrep", fgrep), ("sed", sed),
   ("awk", awk), ("mawk", awk), ("base64", base64), ("cksum", cksum),
   ("md5sum", digests "MD5" Digest.four), ("sha1sum", digests "SHA1" Digest.five),
   ("sha256sum", digests "SHA256" Digest.eight), ("truncate", truncate), ("dd", dd),
   ("split", split), ("factor", factor), ("shuf", shuf), ("sync", constant 0),
   ("groups", line "root")]

def names : List String := all.map Prod.fst

def named? (name : String) : Option Utility := all.lookup name

end BuoyGateway.Shell.Utility
