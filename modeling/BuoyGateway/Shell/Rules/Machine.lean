import BuoyGateway.Shell.Rules.Table
import BuoyGateway.Shell.Rules.Text
import BuoyGateway.Shell.Utility.Basic

/-!
# The state of a program of rules at work

Variables are names of cells, so that a function can be given a table of its caller. The record and
its fields follow each other: what is put in one of them shows in the other. What is written to the
first place for results is kept until something else could be seen.
-/

namespace BuoyGateway.Shell.Rules

inductive Cell
  | value (v : Value)
  | table (t : Table)
  deriving Inhabited

/-- A name in a function: its cell, which may be one of the caller. -/
structure Own where
  name : String
  cell : Nat
  borrowed : Bool := false

/-- A file or a command that is written to, and what is still to be written, the latest first. -/
structure Outlet where
  name : String
  isCommand : Bool
  pending : List (List Char) := []

/-- A file or a command that is read from: what is left, and the code that a command has ended
with. -/
structure Inlet where
  name : String
  isCommand : Bool
  rest : List Char
  code : Nat := 0

structure Machine where
  process : Process
  cells : Std.HashMap Nat Cell := {}
  names : Std.HashMap String Nat := {}
  lastCell : Nat := 0
  own : List Own := []
  record : Value := .text []
  fields : Array Value := #[]
  /-- What is left of the file whose records are gone through, if one is open. -/
  input : Option (List Char) := none
  argument : Nat := 1
  hasRead : Bool := false
  inlets : List Inlet := []
  outlets : List Outlet := []
  pending : List (List Char) := []
  /-- The rules whose first record has come and whose last one has not. -/
  begun : List Nat := []
  seed : Nat := 0
  random : Nat := 0
  code : Nat := 0

inductive Halt
  | nextRecord
  | nextFile
  | leave
  | again
  | giveBack (v : Value)
  | exit
  | fault (text : String)
  | failed (text : String)
  | endless

abbrev Act := ExceptT Halt (StateM Machine)

namespace Machine

def act {α : Type} (f : StateM Process α) : Act α := do
  let m ← get
  let (a, process) := f.run m.process
  set { m with process }
  pure a

/-! ### Variables -/

def cell? (m : Machine) (name : String) : Option Nat :=
  match m.own.find? (fun o => o.name = name) with
  | some o => some o.cell
  | none => m.names[name]?

def content (m : Machine) (name : String) : Cell :=
  ((m.cell? name).bind (fun n => m.cells[n]?)).getD (.value .missing)

def newCell (m : Machine) (c : Cell) : Nat × Machine :=
  let n := m.lastCell + 1
  (n, { m with lastCell := n, cells := m.cells.insert n c })

/-- Makes a name stand for something. A value that a function puts in a variable of its caller that
has none yet stays in the function. -/
def setContent (m : Machine) (name : String) (c : Cell) : Machine :=
  match m.own.find? (fun o => o.name = name), c with
  | some o, .value _ =>
    if o.borrowed then
      let (n, m) := m.newCell c
      { m with own := m.own.map (fun o => if o.name = name then ⟨name, n, false⟩ else o) }
    else { m with cells := m.cells.insert o.cell c }
  | some o, c => { m with cells := m.cells.insert o.cell c }
  | none, c =>
    match m.names[name]? with
    | some n => { m with cells := m.cells.insert n c }
    | none =>
      let (n, m) := m.newCell c
      { m with names := m.names.insert name n }

def global (m : Machine) (name : String) : Value :=
  match (m.names[name]?).bind (fun n => m.cells[n]?) with
  | some (.value v) => v
  | _ => .missing

def setGlobal (m : Machine) (name : String) (v : Value) : Machine :=
  let own := m.own
  { ({ m with own := [] }.setContent name (.value v)) with own }

def format (m : Machine) : List Char := (m.global "CONVFMT").toText []

def text (m : Machine) (v : Value) : List Char := v.toText m.format

def setting (m : Machine) (name : String) : List Char := m.text (m.global name)

def table (m : Machine) (name : String) : Table :=
  match m.content name with
  | .table t => t
  | .value _ => {}

/-! ### The record and its fields -/

def parted (m : Machine) : Except String Machine := do
  let separator ← Separator.of (m.setting "FS")
  let parts := separator.fields (m.text m.record)
  pure { m with fields := (parts.map Value.input).toArray }

def rejoined (m : Machine) : Machine :=
  let parts := m.fields.toList.map m.text
  { m with record := .text (List.intercalate (m.setting "OFS") parts) }

/-- The value of a field; the one with number zero is the record. -/
def field (m : Machine) (n : Nat) : Value :=
  if n = 0 then m.record else m.fields.getD (n - 1) (.text [])

def withFields (m : Machine) (n : Nat) : Machine :=
  let more := Array.replicate (n - m.fields.size) (Value.text [])
  { m with fields := (m.fields ++ more).take n }

def setField (m : Machine) (n : Nat) (v : Value) : Except String Machine :=
  if n = 0 then { m with record := v }.parted
  else
    let m := m.withFields (max n m.fields.size)
    .ok { m with fields := m.fields.setIfInBounds (n - 1) v }.rejoined

def variableValue (m : Machine) (name : String) : Value :=
  if name = "NF" && !(m.own.any (fun o => o.name = name)) then .ofNat m.fields.size
  else
    match m.content name with
    | .value v => v
    | .table _ => .missing

/-! ### Results -/

def whereabouts (m : Machine) : String :=
  "\tFILENAME=\"" ++ String.ofList (m.setting "FILENAME") ++ "\" FNR=" ++
    String.ofList (m.setting "FNR") ++ " NR=" ++ String.ofList (m.setting "NR") ++ "\n"

def keep (m : Machine) (s : List Char) : Machine := { m with pending := s :: m.pending }

def closingFault (name : String) (e : SystemError) : Halt :=
  .failed ("close failed on file \"" ++ name ++ "\" (" ++ e.wording ++ ")")

def release : Act Unit := do
  let m ← get
  let text := m.pending.reverse.flatten
  set { m with pending := [] }
  match m.process.write 1 text with
  | .ok process => modify (fun m => { m with process })
  | .error e => throw (closingFault "/dev/stdout" e)

def releaseFile (o : Outlet) : Act Unit := do
  if !o.isCommand then
    let text := o.pending.reverse.flatten
    if !text.isEmpty then
      match ← act (Utility.writeFile o.name true text) with
      | .ok () => pure ()
      | .error e => throw (closingFault o.name e)

def releaseAll : Act Unit := do
  for o in (← get).outlets do
    releaseFile o
  modify (fun m => { m with
    outlets := m.outlets.map (fun (o : Outlet) =>
      if o.isCommand then o else { o with pending := [] }) })
  release

/-- What is left to read of a command or what it gets to read, and how it ends. -/
def runCommand (run : Runner) (command : String) (input : Option (List Char)) (captured : Bool) :
    StateM Process (Outcome × List Char) := do
  let before ← get
  modify (fun p => match input with
    | some text => p.openStream 0 (.pipe [⟨p.clock, text⟩] [])
    | none => p)
  modify (fun p => if captured then p.openStream 1 (.pipe [] []) else p)
  let outcome ← run "/bin/sh" ["-c", command]
  let p ← get
  let (text, p) := match captured, p.readAll 1 with
    | true, .ok (text, p) => (text, p)
    | _, _ => ([], p)
  let drop (p : Process) (used : Bool) (descriptor : Nat) : Process :=
    match used, p.stream? descriptor with
    | true, some (n, _) => p.dropStream n
    | _, _ => p
  let p := drop (drop p input.isSome 0) captured 1
  set { p with descriptors := before.descriptors }
  pure (outcome, text)

def codeOf : Outcome → Nat
  | .exited code => code
  | .killed signal => 256 + signal
  | .refused _ => 127

def closeOutlet (run : Runner) (o : Outlet) : Act Nat := do
  modify (fun m => { m with
    outlets := m.outlets.filter (fun other =>
      other.name != o.name || other.isCommand != o.isCommand) })
  if o.isCommand then
    let (outcome, _) ← act (runCommand run o.name (some o.pending.reverse.flatten) false)
    pure (codeOf outcome)
  else
    releaseFile o
    pure 0

def sendTo (target : Target) (name : String) (s : List Char) : Act Unit := do
  let isCommand := target = .command
  if !isCommand && name = "/dev/stdout" then modify (fun m => m.keep s)
  else if !isCommand && name = "/dev/stderr" then act (modify (fun p => p.say 2 s))
  else
    let found := (← get).outlets.find? (fun o => o.name = name && o.isCommand = isCommand)
    match found with
    | some o =>
      modify (fun m => { m with
        outlets := { o with pending := s :: o.pending } ::
          m.outlets.filter (fun other => other.name != name || other.isCommand != isCommand) })
    | none =>
      if isCommand then releaseAll
      else
        match ← act (Utility.writeFile name (target = .fileEnd) []) with
        | .ok () => pure ()
        | .error e =>
          throw (.failed ("cannot open \"" ++ name ++ "\" for output (" ++ e.wording ++ ")"))
      modify (fun m => { m with outlets := ⟨name, isCommand, [s]⟩ :: m.outlets })

/-! ### Records -/

/-- The next file among the arguments is open, if there is one; arguments may give values to
variables instead. -/
def openNext (assign : String → String → Act Unit) : Nat → Act Bool
  | 0 => pure false
  | fuel + 1 => do
    let m ← get
    let count := (whole? (m.global "ARGC").toNumber).getD 0
    if m.argument < count.toNat then
      let name := String.ofList (m.text ((m.table "ARGV").get (.number m.argument)))
      set { m with argument := m.argument + 1 }
      let parts := name.toList.takeWhile (fun c => c != '=')
      let isName := match parts with
        | c :: _ => (c.isAlpha || c = '_') && parts.all Token.isNamePart
        | [] => false
      if name = "" then openNext assign fuel
      else if isName && parts.length < name.length then
        assign (String.ofList parts) (String.ofList (name.toList.drop (parts.length + 1)))
        openNext assign fuel
      else
        openFile name
        pure true
    else if m.hasRead then pure false
    else
      openFile "-"
      pure true
where
  openFile (name : String) : Act Unit := do
    let path := if name = "/dev/stdin" then "-" else name
    match ← act (Utility.readFile path) with
    | .ok text =>
      modify (fun m =>
        ({ m with input := some text, hasRead := true }.setGlobal "FILENAME" (.text name.toList))
          |>.setGlobal "FNR" (.ofNat 0))
    | .error .isDirectory => throw (.failed "read error (Is a directory)")
    | .error .badDescriptor =>
      modify (fun m => { m with input := some [], hasRead := true })
    | .error e => throw (.failed ("cannot open \"" ++ name ++ "\" (" ++ e.wording ++ ")"))

def recordSeparator (m : Machine) : Except String Separator :=
  match m.setting "RS" with
  | [c] => .ok (.character c)
  | s => Separator.of s

def expressionHalt (s : List Char) (text : String) : Halt :=
  .failed ("line 0: regular expression compile failed (" ++ text ++ ")\n" ++ String.ofList s)

def nextRecord? (assign : String → String → Act Unit) : Nat → Act (Option (List Char))
  | 0 => pure none
  | fuel + 1 => do
    let m ← get
    match m.input with
    | none =>
      if ← openNext assign (fuel + 1) then nextRecord? assign fuel else pure none
    | some rest =>
      match m.recordSeparator with
      | .error e => throw (expressionHalt (m.setting "RS") e)
      | .ok separator =>
        match separator.record? rest with
        | none =>
          set { m with input := none }
          nextRecord? assign fuel
        | some (record, rest) =>
          let count (m : Machine) (name : String) : Machine :=
            m.setGlobal name (.number ((m.global name).toNumber + 1.0))
          set (count (count { m with input := some rest } "NR") "FNR")
          pure (some record)

def takeRecord (s : List Char) : Act Unit := do
  let m ← get
  match { m with record := .input s }.parted with
  | .ok m => set m
  | .error e => throw (expressionHalt (m.setting "FS") e)

def argumentLimit : Nat := 100000

end Machine

end BuoyGateway.Shell.Rules
