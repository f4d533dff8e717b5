/-!
# Switches

The switches of the shell, each with its name and, for most of them, a letter.
-/

namespace BuoyGateway.Shell

inductive Switch
  | exitOnFailure
  | plainNames
  | ignoreEnd
  | interactive
  | monitor
  | readOnly
  | standardInput
  | trace
  | verbose
  | viEditing
  | emacsEditing
  | keepFiles
  | exportAll
  | notify
  | needValues
  | privileged
  | noLog
  | debug
  deriving DecidableEq, Repr

namespace Switch

def table : List (Switch × String × Option Char) :=
  [(exitOnFailure, "errexit", some 'e'), (plainNames, "noglob", some 'f'),
   (ignoreEnd, "ignoreeof", some 'I'), (interactive, "interactive", some 'i'),
   (monitor, "monitor", some 'm'), (readOnly, "noexec", some 'n'),
   (standardInput, "stdin", some 's'), (trace, "xtrace", some 'x'),
   (verbose, "verbose", some 'v'), (viEditing, "vi", some 'V'),
   (emacsEditing, "emacs", some 'E'), (keepFiles, "noclobber", some 'C'),
   (exportAll, "allexport", some 'a'), (notify, "notify", some 'b'),
   (needValues, "nounset", some 'u'), (privileged, "privileged", some 'p'),
   (noLog, "nolog", none), (debug, "debug", none)]

def ofLetter? (c : Char) : Option Switch :=
  (table.find? (fun entry => entry.2.2 == some c)).map Prod.fst

def ofName? (s : String) : Option Switch :=
  (table.find? (fun entry => entry.2.1 == s)).map Prod.fst

def letters (on : List Switch) : List Char :=
  (table.filterMap (fun entry => if on.contains entry.1 then entry.2.2 else none)).reverse

def listing (on : List Switch) : String :=
  "Current option settings\n" ++ String.join (table.map (fun entry =>
    String.ofList (entry.2.1.toList.rightpad 16 ' ') ++
      (if on.contains entry.1 then "on\n" else "off\n")))

def commands (on : List Switch) : String :=
  String.join (table.map (fun entry =>
    (if on.contains entry.1 then "set -o " else "set +o ") ++ entry.2.1 ++ "\n"))

end Switch

end BuoyGateway.Shell
