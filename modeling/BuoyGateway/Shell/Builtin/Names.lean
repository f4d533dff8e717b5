import BuoyGateway.Shell.Builtin.Basic
import BuoyGateway.Shell.Program

/-!
# Commands for the names of commands

They say what a name stands for where a command begins: a word of the grammar, another text, a
function, a command of the shell or a program. What is kept by name is listed in the order of a
number that is worked out from the characters of the name.
-/

namespace BuoyGateway.Shell.Builtin

def row (rows : Nat) (name : String) : Nat :=
  let s := name.toList.map Char.toNat
  (16 * s.headD 0 + s.foldl (· + ·) 0) % rows

def inRows {α : Type} (rows : Nat) (entries : List (String × α)) : List (String × α) :=
  (List.range rows).flatMap (fun r => entries.filter (fun e => row rows e.1 = r))

/-! ### Names for other texts -/

def aliasLine (a : String × String) : String := a.1 ++ "=" ++ quoted a.2 ++ "\n"

def aliasRows : Nat := 39

def aliasEach : Nat → String → List String → StateM Process Flow
  | code, out, [] => emit out.toList code
  | code, out, a :: rest => do
    let p ← get
    let (name, value) := match nameAndValue (String.ofList (a.toList.drop 1)) with
      | (rest, some value) => (String.ofList (a.toList.take 1) ++ rest, some value)
      | (_, none) => (a, none)
    match value, p.aliases.lookup name with
    | some value, some _ =>
      set { p with
        aliases := p.aliases.map (fun (e : String × String) =>
          if e.1 = name then (name, value) else e) }
      aliasEach code out rest
    | some value, none =>
      set { p with aliases := p.aliases ++ [(name, value)] }
      aliasEach code out rest
    | none, some value => aliasEach code (out ++ aliasLine (name, value)) rest
    | none, none =>
      modify (fun p => p.say 2 ("alias: " ++ a ++ " not found\n").toList)
      aliasEach 1 out rest

def alias' : Builtin := fun arguments => do
  if arguments.isEmpty then
    emit (String.join ((inRows aliasRows (← get).aliases).map aliasLine)).toList 0
  else aliasEach 0 "" arguments

def unaliasEach : Nat → List String → StateM Process Flow
  | code, [] => done code
  | code, name :: rest => do
    let p ← get
    if (p.aliases.lookup name).isSome then
      set { p with aliases := p.aliases.filter (fun e => e.1 != name) }
      unaliasEach code rest
    else
      modify (fun p => p.say 2 ("unalias: " ++ name ++ " not found\n").toList)
      unaliasEach 1 rest

def unalias : Builtin := fun arguments =>
  withOptions "a" arguments (fun found rest => do
    if found.isEmpty then unaliasEach 0 rest
    else
      modify (fun p => { p with aliases := [] })
      done 0)

/-! ### What names stand for -/

def reserved : List String :=
  ["!", "case", "do", "done", "elif", "else", "esac", "fi", "for", "if", "in", "then", "until",
   "while", "\x7b", "\x7d"]

/-- The commands of the shell whose faults end a script, and that keep assignments. -/
def specialNames : List String :=
  [".", ":", "break", "continue", "eval", "exec", "exit", "export", "readonly", "return", "set",
   "shift", "times", "trap", "unset", "local"]

def ordinaryNames : List String :=
  ["[", "alias", "bg", "cd", "chdir", "command", "echo", "false", "fg", "getopts", "hash", "jobs",
   "kill", "printf", "pwd", "read", "test", "true", "type", "ulimit", "umask", "unalias", "wait"]

inductive Meaning
  | word
  | text (s : String)
  | function
  | command (special : Bool)
  | program (path : String) (tracked : Bool)
  | nothing

def meaning (p : Process) (search : Option String) (standard : Bool) (name : String) : Meaning :=
  if reserved.contains name then .word
  else
    match p.aliases.lookup name with
    | some s => .text s
    | none =>
      if specialNames.contains name then .command true
      else if (p.functions.lookup name).isSome then .function
      else if ordinaryNames.contains name then .command false
      else
        match if standard then none else p.tracked.lookup name with
        | some path => .program path true
        | none =>
          match findProgram p search name with
          | .path path =>
            if name.contains '/' && (p.node? name).isNone then .nothing else .program path false
          | .nothing _ => .nothing

/-- Says at length what a name stands for; whether it stands for something. -/
def describe (name : String) : Meaning → String × Bool
  | .word => (name ++ " is a shell keyword\n", true)
  | .text s => (name ++ " is an alias for " ++ s ++ "\n", true)
  | .function => (name ++ " is a shell function\n", true)
  | .command true => (name ++ " is a special shell builtin\n", true)
  | .command false => (name ++ " is a shell builtin\n", true)
  | .program path true => (name ++ " is a tracked alias for " ++ path ++ "\n", true)
  | .program path false => (name ++ " is " ++ path ++ "\n", true)
  | .nothing => (name ++ ": not found\n", false)

def describeBriefly (name : String) : Meaning → String × Bool
  | .text s => ("alias " ++ aliasLine (name, s), true)
  | .program path _ => (path ++ "\n", true)
  | .nothing => ("", false)
  | _ => (name ++ "\n", true)

/-- What a name stands for where a command begins; a program that was looked for is kept. -/
def lookUp (standard : Bool) (name : String) : StateM Process Meaning := do
  let p ← get
  let m := meaning p (if standard then some standardPath else p.searchPath) standard name
  match m with
  | .program path false => if !standard && !name.contains '/' then set (p.track name path)
  | _ => pure ()
  pure m

def type : Builtin := fun arguments => do
  let found ← arguments.mapM (fun name => do pure (describe name (← lookUp false name)))
  emit (String.join (found.map Prod.fst)).toList (if found.all Prod.snd then 0 else 127)

def command : Builtin := fun arguments =>
  withOptions "pvV" arguments (fun found rest => do
    let has (c : Char) : Bool := found.any (fun o => o.1 = c)
    match rest with
    | [] => done 0
    | name :: _ =>
      if has 'v' || has 'V' then
        let m ← lookUp (has 'p') name
        let (text, known) := if has 'V' then describe name m else describeBriefly name m
        emit text.toList (if known then 0 else 127)
      else done 0)

def trackRows : Nat := 31

def track : Nat → List String → StateM Process Flow
  | code, [] => done code
  | code, name :: rest => do
    let p ← get
    let known := specialNames.contains name || ordinaryNames.contains name ||
      (p.functions.lookup name).isSome || name.contains '/'
    match if known then Finding.path name else findProgram p p.searchPath name with
    | .path path =>
      if !known then set (p.track name path)
      track code rest
    | .nothing e =>
      modify (fun p => p.complain (name ++ ": " ++ (launchFault e).1))
      track 1 rest

def hash : Builtin := fun arguments =>
  withOptions "r" arguments (fun found rest => do
    if !found.isEmpty then
      modify (fun p => { p with tracked := [] })
      done 0
    else if rest.isEmpty then
      let paths := (inRows trackRows (← get).tracked).map (fun t => t.2 ++ "\n")
      emit (String.join paths).toList 0
    else track 0 rest)

end BuoyGateway.Shell.Builtin
