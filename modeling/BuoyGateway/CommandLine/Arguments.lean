/-!
# Arguments of the command line

One of four requests, with an option that names a file of settings before or after it. The option
has a long and a short form, and its value may be joined to it. After `--` nothing is an option, and
after `help` nothing but the name of a request may come.

The value of an option is looked at when the next option or value comes, or at the end. So a wish
for help is granted before a faulty value is found, unless something came between them.
-/

namespace BuoyGateway.CommandLine

inductive Request
  | boot
  | run (once : Bool)
  | send (destination text : String)
  | parse (text : String)
  deriving DecidableEq, Repr

/-- A request, and the file of settings that is named with it. -/
structure Arguments where
  settings : Option String
  request : Request
  deriving DecidableEq, Repr

/-- Why there is no request: arguments that make none, or a wish for help. -/
inductive Misuse
  | usage
  | help
  deriving DecidableEq, Repr

def requests : List (String × Nat) := [("boot", 0), ("run", 0), ("send", 2), ("parse", 1)]

def topics : List String := requests.map Prod.fst ++ ["help"]

/-- A value of the option for settings that has not been looked at. -/
inductive Pending
  | nothing
  | awaited
  | named (path : String)
  deriving DecidableEq, Repr

/-- The option for settings at one place of the command line, where it may be given once. -/
structure SettingsOption where
  path : Option String := none
  pending : Pending := .nothing
  deriving DecidableEq, Repr

namespace SettingsOption

def take (s : SettingsOption) (path : String) : Except Misuse SettingsOption :=
  if path = "" || s.path.isSome then .error .usage else .ok ⟨some path, .nothing⟩

def settle (s : SettingsOption) : Except Misuse SettingsOption :=
  match s.pending with
  | .nothing => .ok s
  | .awaited => .error .usage
  | .named path => s.take path

end SettingsOption

inductive Mode
  | anything
  | values
  /-- Help is wanted, about one of these requests or about all. -/
  | helping (topics : List String)
  deriving DecidableEq, Repr

/-- What was read of the arguments: the name of the request, the option for settings before and
after it, and its values. -/
structure Progress where
  name : Option String := none
  before : SettingsOption := {}
  after : SettingsOption := {}
  once : Bool := false
  values : List String := []
  mode : Mode := .anything

namespace Progress

def isOption (a : String) : Bool := a.startsWith "-" && a != "-"

def here (p : Progress) : SettingsOption := if p.name.isSome then p.after else p.before

def setHere (p : Progress) (s : SettingsOption) : Progress :=
  if p.name.isSome then { p with after := s } else { p with before := s }

def settle (p : Progress) : Except Misuse Progress := p.here.settle.map p.setHere

def await (p : Progress) : Except Misuse Progress := do
  let p ← p.settle
  pure (p.setHere { p.here with pending := .awaited })

def takeSettings (p : Progress) (path : String) : Except Misuse Progress := do
  let p ← p.settle
  pure (p.setHere (← p.here.take path))

def addValue (p : Progress) (a : String) : Except Misuse Progress :=
  match p.name with
  | some name => do
    let p ← p.settle
    if p.values.length < (requests.lookup name).getD 0 then
      pure { p with values := p.values ++ [a] }
    else .error .usage
  | none =>
    if p.mode = .values then .error .usage
    else if a = "help" then .ok { p with mode := .helping topics }
    else if (requests.lookup a).isSome then .ok { p with name := some a }
    else .error .usage

def help (p : Progress) : Except Misuse Progress := do
  let _ ← p.settle
  .error .help

/-- Takes an option with a long name, and the value that is joined to it. -/
def long (p : Progress) (name : String) (value : Option String) : Except Misuse Progress :=
  match name, value with
  | "config", none => p.await
  | "config", some path => p.takeSettings path
  | "once", none => do
    let p ← p.settle
    if p.name = some "run" && !p.once then pure { p with once := true } else .error .usage
  | "help", none => p.help
  | _, _ => .error .usage

def short (p : Progress) (letters : List Char) : Except Misuse Progress :=
  match letters with
  | ['c'] => p.await
  | 'c' :: '=' :: path => p.takeSettings (String.ofList path)
  | 'c' :: path => p.takeSettings (String.ofList path)
  | 'h' :: _ => p.help
  | _ => .error .usage

def addAnything (p : Progress) (a : String) : Except Misuse Progress :=
  if p.here.pending = .awaited then
    if isOption a then .error .usage else .ok (p.setHere { p.here with pending := .named a })
  else if a = "--" then .ok { p with mode := .values }
  else if isOption a then
    match a.toList with
    | '-' :: '-' :: rest =>
      let name := rest.takeWhile (fun c => c != '=')
      p.long (String.ofList name)
        (if name.length < rest.length then some (String.ofList (rest.drop (name.length + 1)))
        else none)
    | _ :: letters => p.short letters
    | [] => .error .usage
  else p.addValue a

def step (p : Progress) (a : String) : Except Misuse Progress :=
  match p.mode with
  | .anything => p.addAnything a
  | .values => p.addValue a
  | .helping topics =>
    if topics.contains a then .ok { p with mode := .helping [] } else .error .usage

def finish (p : Progress) : Except Misuse Arguments := do
  if let .helping _ := p.mode then throw .help
  let settings := (← p.after.settle).path.or (← p.before.settle).path
  match p.name, p.values with
  | some "boot", [] => pure ⟨settings, .boot⟩
  | some "run", [] => pure ⟨settings, .run p.once⟩
  | some "send", [destination, text] => pure ⟨settings, .send destination text⟩
  | some "parse", [text] => pure ⟨settings, .parse text⟩
  | _, _ => throw .usage

end Progress

def Arguments.parse (arguments : List String) : Except Misuse Arguments := do
  (← arguments.foldlM Progress.step {}).finish

end BuoyGateway.CommandLine
