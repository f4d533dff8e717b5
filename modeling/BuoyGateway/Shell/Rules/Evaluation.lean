import BuoyGateway.Shell.Rules.Machine

/-!
# What a program of rules does

Expressions have values, statements are carried out, and rules go through the records. All functions
take an amount of fuel that bounds how deep they go and how often loops turn.
-/

namespace BuoyGateway.Shell.Rules

structure Context where
  run : Runner
  functions : List Function

inductive Spot
  | variable (name : String)
  | field (n : Nat)
  | entry (table : String) (key : Key)

namespace Machine

def withTable {α : Type} (name : String) (f : Table → α × Table) : Act α :=
  modifyGet (fun m =>
    let t := m.table name
    let m := m.setContent name (.table {})
    let (a, t) := f t
    (a, m.setContent name (.table t)))

def keyOf (m : Machine) (v : Value) : Key :=
  match v with
  | .number x =>
    match whole? x with
    | some n =>
      if Float.ofInt n == x && n.natAbs < 2147483648 then .number n
      else .text (String.ofList (m.text v))
    | none => .text (String.ofList (m.text v))
  | v => .text (String.ofList (m.text v))

def setVariable (name : String) (v : Value) : Act Unit := do
  let m ← get
  if name = "NF" && !(m.own.any (fun o => o.name = name)) then
    let n := signedWhole v.toNumber
    if n < 0 then throw (.fault "negative value assigned to NF")
    else set (m.withFields n.toNat).rejoined
  else
    match m.content name with
    | .table _ => throw (.fault ("illegal reference to array " ++ name))
    | .value _ => set (m.setContent name (.value v))

def valueAt : Spot → Act Value
  | .variable name => do pure ((← get).variableValue name)
  | .field n => do pure ((← get).field n)
  | .entry table key => withTable table (fun t =>
      let (t, _) := t.lookUp key true
      (t.get key, t))

def putAt : Spot → Value → Act Unit
  | .variable name, v => setVariable name v
  | .field n, v => do
    let m ← get
    match m.setField n v with
    | .ok m => set m
    | .error e => throw (expressionHalt (m.setting "FS") e)
  | .entry table key, v => withTable table (fun t => ((), t.set key v))

def fieldNumber (v : Value) : Act Nat := do
  let n := signedWhole v.toNumber
  if n < 0 then throw (.fault ("negative field index $" ++ Decimal.text n)) else pure n.toNat

def compiled (s : List Char) : Act Regex :=
  match expressionOf s with
  | .ok r => pure r
  | .error e => throw (expressionHalt s e)

/-- A text that follows a format, of which the part in front of a fault is given to `use`. -/
def formatting (word : String) (format : List Char) (values : List Value)
    (use : List Char → Act Unit) : Act Unit := do
  let m ← get
  let (text, fault) := formatted m.text (format.length + 1) 0 format values
  use text
  let shown := word ++ "(\"" ++ String.ofList format ++ "\")"
  match fault with
  | none => pure ()
  | some .tooFew => throw (.fault ("not enough arguments passed to " ++ shown))
  | some (.improper n) =>
    throw (.fault ("improper conversion(number " ++ Utility.numeral n ++ ") in " ++ shown))

def nextOf (i : Inlet) : Act (Option (List Char)) := do
  let m ← get
  match m.recordSeparator with
  | .error e => throw (expressionHalt (m.setting "RS") e)
  | .ok separator =>
    let found := separator.record? i.rest
    let i := { i with rest := (found.map Prod.snd).getD [] }
    modify (fun m => { m with
      inlets := i :: m.inlets.filter (fun other => other.name != i.name ||
        other.isCommand != i.isCommand) })
    pure (found.map Prod.fst)

def inlet? (m : Machine) (name : String) (isCommand : Bool) : Option Inlet :=
  m.inlets.find? (fun i => i.name = name && i.isCommand = isCommand)

/-- The next record of a file; the outer part is missing where the file cannot be read. -/
def fileRecord (name : String) : Act (Option (Option (List Char))) := do
  match (← get).inlet? name false with
  | some i => pure (some (← nextOf i))
  | none =>
    match ← act (Utility.readFile (if name = "/dev/stdin" then "-" else name)) with
    | .ok rest => pure (some (← nextOf { name, isCommand := false, rest }))
    | .error .isDirectory => throw (.failed "read error (Is a directory)")
    | .error _ => pure none

def commandRecord (c : Context) (name : String) : Act (Option (List Char)) := do
  match (← get).inlet? name true with
  | some i => nextOf i
  | none =>
    releaseAll
    let (outcome, rest) ← act (runCommand c.run name none true)
    nextOf { name, isCommand := true, rest, code := codeOf outcome }

/-- Ends what is read or written under a name, and gives back a code; -1 if there is no such
thing. -/
def close (c : Context) (name : String) : Act Value := do
  let m ← get
  match m.outlets.find? (fun o => o.name = name), m.inlets.find? (fun i => i.name = name) with
  | some o, _ => pure (.ofNat (← closeOutlet c.run o))
  | none, some i =>
    set { m with inlets := m.inlets.filter (fun other => other.name != name) }
    pure (.ofNat i.code)
  | none, none => pure (.number (-1.0))

/-- A part of a text from a character on, where that is before the first one too. -/
def partOf (s : List Char) (start : Int) (length : Option Int) : List Char :=
  match length with
  | none => s.drop (start - 1).toNat
  | some n =>
    let n := if start < 0 then n - start else n
    (s.drop (start - 1).toNat).take n.toNat

/-- The place of a text in another one, from one on; zero if it is not there. -/
def placeOf (part s : List Char) : Nat :=
  let rec go (n : Nat) (s : List Char) : Nat :=
    if part.isPrefixOf s then n
    else
      match s with
      | [] => 0
      | _ :: rest => go (n + 1) rest
  go 1 s

/-- A number from zero on and below one that nobody foresees, and what the next one is made of. -/
def drawn (state : Nat) : Float × Nat :=
  let state := (6364136223846793005 * state + 1442695040888963407) % 18446744073709551616
  ((Float.ofNat (state / 2048)) / 9007199254740992.0, state)

def numeric? (name : String) (x : Float) : Option Float :=
  match name with
  | "sin" => some x.sin
  | "cos" => some x.cos
  | "exp" => some x.exp
  | "log" => some x.log
  | "sqrt" => some x.sqrt
  | "int" => some (whole x)
  | _ => none

def applied (c : Context) (name : String) (values : List Value) : Act Value := do
  let m ← get
  let text (n : Nat) : List Char := m.text (values.getD n .missing)
  let number (n : Nat) : Float := (values.getD n .missing).toNumber
  match name with
  | "length" =>
    pure (.ofNat (if values.isEmpty then m.text m.record else text 0).length)
  | "index" => pure (.ofNat (placeOf (text 1) (text 0)))
  | "substr" =>
    pure (.text (partOf (text 0) (signedWhole (number 1))
      ((values[2]?).map (fun v => signedWhole v.toNumber))))
  | "tolower" => pure (.text ((text 0).map Char.toLower))
  | "toupper" => pure (.text ((text 0).map Char.toUpper))
  | "atan2" => pure (.number (Float.atan2 (number 0) (number 1)))
  | "rand" =>
    let (x, random) := drawn m.random
    set { m with random }
    pure (.number x)
  | "srand" =>
    let seed := if values.isEmpty then m.seed + 1 else unsignedWhole (number 0)
    set { m with seed, random := seed }
    pure (.ofNat m.seed)
  | "system" =>
    releaseAll
    let (outcome, _) ← act (runCommand c.run (String.ofList (text 0)) none false)
    pure (.ofNat (codeOf outcome))
  | "close" => close c (String.ofList (text 0))
  | "fflush" =>
    releaseAll
    let name := String.ofList (text 0)
    let isKnown := name = "" || name = "/dev/stdout" || m.outlets.any (fun o => o.name = name)
    pure (.number (if isKnown then 0.0 else -1.0))
  | name => pure (.number ((numeric? name (number 0)).getD 0.0))

def replaceIn (r : Regex) (new : List Char) (all : Bool) (s : List Char) : List Char × Nat :=
  replaced r new all (2 * s.length + 2) none false s

end Machine

open Machine

mutual

def value (c : Context) : Nat → Expression → Act Value
  | 0, _ => throw .endless
  | fuel + 1, e => do
    match e with
    | .number x => pure (.number x)
    | .text s => pure (.text s)
    | .pattern s =>
      let r ← compiled s
      let m ← get
      pure (.ofBool (r.isIn false (m.text m.record)))
    | .variable name =>
      let m ← get
      match m.content name with
      | .table _ => throw (.fault ("illegal reference to array " ++ name))
      | .value _ => pure (m.variableValue name)
    | .field .. | .entry .. => valueAt (← spot c fuel e)
    | .group parts =>
      match parts with
      | [a] => value c fuel a
      | parts =>
        let key ← key c fuel parts
        pure (.text (Table.textOf key).toList)
    | .assign place how a =>
      match how with
      | none =>
        let v ← value c fuel a
        let s ← spot c fuel place
        putAt s v
        pure v
      | some how =>
        let s ← spot c fuel place
        let v ← value c fuel a
        let before ← valueAt s
        let after := Value.number (how.apply before.toNumber v.toNumber)
        putAt s after
        pure after
    | .step place up before =>
      let s ← spot c fuel place
      let x := (← valueAt s).toNumber
      let y := if up then x + 1.0 else x - 1.0
      putAt s (.number y)
      pure (.number (if before then x else y))
    | .reckon how a b =>
      let x ← value c fuel a
      let y ← value c fuel b
      pure (.number (how.apply x.toNumber y.toNumber))
    | .compare how a b =>
      let x ← value c fuel a
      let y ← value c fuel b
      pure (.ofBool (how.holds (← get).format x y))
    | .joined a b =>
      let x ← value c fuel a
      let y ← value c fuel b
      let m ← get
      pure (.text (m.text x ++ m.text y))
    | .negative a => pure (.number (-(← value c fuel a).toNumber))
    | .positive a => pure (.number (← value c fuel a).toNumber)
    | .not a => pure (.ofBool (!(← value c fuel a).isTrue))
    | .both a b =>
      if (← value c fuel a).isTrue then pure (.ofBool (← value c fuel b).isTrue)
      else pure (.ofBool false)
    | .either a b =>
      if (← value c fuel a).isTrue then pure (.ofBool true)
      else pure (.ofBool (← value c fuel b).isTrue)
    | .choice a yes no =>
      if (← value c fuel a).isTrue then value c fuel yes else value c fuel no
    | .fits wanted a b =>
      let v ← value c fuel a
      let r ← regex c fuel b
      pure (.ofBool (r.isIn false ((← get).text v) = wanted))
    | .isKey keys table =>
      let key ← key c fuel keys
      let found ← withTable table (fun t =>
        let (t, found) := t.lookUp key false
        (found, t))
      pure (.ofBool found)
    | .call name arguments => call c fuel name arguments
    | .builtIn name arguments => builtIn c fuel name arguments
    | .nextRecord place =>
      match ← nextRecord? (fun name s => assignText name s) argumentLimit with
      | none => pure (.number 0.0)
      | some s => received c fuel place s
    | .fileRecord place path =>
      let name ← value c fuel path
      match ← fileRecord (String.ofList ((← get).text name)) with
      | none => pure (.number (-1.0))
      | some none => pure (.number 0.0)
      | some (some s) => received c fuel place s
    | .commandRecord place command =>
      let name ← value c fuel command
      match ← commandRecord c (String.ofList ((← get).text name)) with
      | none => pure (.number 0.0)
      | some s => received c fuel place s

def assignText (name s : String) : Act Unit :=
  setVariable name (.input (Token.unescaped (s.length + 1) s.toList))

def received (c : Context) : Nat → Option Expression → List Char → Act Value
  | 0, _, _ => throw .endless
  | fuel + 1, place, s => do
    match place with
    | none => takeRecord s
    | some place => putAt (← spot c fuel place) (.input s)
    pure (.number 1.0)

def values (c : Context) : Nat → List Expression → Act (List Value)
  | 0, _ => throw .endless
  | fuel + 1, es => do
    match es with
    | [] => pure []
    | e :: rest =>
      let v ← value c fuel e
      let others ← values c fuel rest
      pure (v :: others)

def key (c : Context) : Nat → List Expression → Act Key
  | 0, _ => throw .endless
  | fuel + 1, es => do
    let vs ← values c fuel es
    let m ← get
    match vs with
    | [v] => pure (m.keyOf v)
    | vs => pure (.text (String.ofList (List.intercalate (m.setting "SUBSEP") (vs.map m.text))))

def spot (c : Context) : Nat → Expression → Act Spot
  | 0, _ => throw .endless
  | fuel + 1, e => do
    match e with
    | .field index => pure (.field (← fieldNumber (← value c fuel index)))
    | .entry table keys => pure (.entry table (← key c fuel keys))
    | .variable name => pure (.variable name)
    | _ => pure (.variable "")

def regex (c : Context) : Nat → Expression → Act Regex
  | 0, _ => throw .endless
  | fuel + 1, e => do
    match e with
    | .pattern s => compiled s
    | e =>
      let v ← value c fuel e
      compiled ((← get).text v)

def builtIn (c : Context) : Nat → String → List Expression → Act Value
  | 0, _, _ => throw .endless
  | fuel + 1, name, arguments => do
    match name, arguments with
    | "length", [.variable s] =>
      match (← get).content s with
      | .table t => pure (.ofNat t.size)
      | .value _ => applied c name (← values c fuel arguments)
    | "match", [a, b] =>
      let v ← value c fuel a
      let r ← regex c fuel b
      let m ← get
      let found := r.search false (m.text v)
      let (start, length) : Float × Float := match found with
        | some f => (Float.ofNat (f.front.length + 1), Float.ofNat f.text.length)
        | none => (0.0, -1.0)
      set ((m.setGlobal "RSTART" (.number start)).setGlobal "RLENGTH" (.number length))
      pure (.number start)
    | "split", a :: .variable table :: rest =>
      let v ← value c fuel a
      let separator : Separator ← match rest with
        | .pattern s :: _ => pure (.expression (← compiled s))
        | e :: _ => separatorOf ((← get).text (← value c fuel e))
        | [] => separatorOf ((← get).setting "FS")
      let parts := separator.fields ((← get).text v)
      withTable table (fun _ => ((), Table.ofList (parts.map .input)))
      pure (.ofNat parts.length)
    | "sub", a :: b :: rest | "gsub", a :: b :: rest =>
      let r ← regex c fuel a
      let new ← value c fuel b
      let s ← match rest with
        | [] => pure (Spot.field 0)
        | place :: _ => spot c fuel place
      let v ← match rest with
        | place :: _ => if place.isPlace then valueAt s else value c fuel place
        | [] => valueAt s
      let m ← get
      let (text, n) := replaceIn r (m.text new) (name = "gsub") (m.text v)
      if 0 < n then putAt s (.text text)
      pure (.ofNat n)
    | "sprintf", _ =>
      match ← values c fuel arguments with
      | [] => pure (.text [])
      | format :: vs =>
        let text := (← get).text format
        formatting "sprintf" text vs (fun _ => pure ())
        let m ← get
        pure (.text (formatted m.text (text.length + 1) 0 text vs).1)
    | _, _ => applied c name (← values c fuel arguments)

def separatorOf (s : List Char) : Act Separator :=
  match Separator.of s with
  | .ok separator => pure separator
  | .error e => throw (expressionHalt s e)

/-- The cells that a function gets for its parameters: those of variables that may become tables,
and new ones for values. -/
def ownCells (c : Context) : Nat → List String → List Expression → Act (List Own)
  | 0, _, _ => throw .endless
  | fuel + 1, parameters, arguments => do
    match parameters, arguments with
    | [], _ => pure []
    | parameter :: others, [] =>
      let n ← modifyGet (fun m => m.newCell (.value .missing))
      pure (⟨parameter, n, false⟩ :: (← ownCells c fuel others []))
    | parameter :: others, a :: rest =>
      let shared : Option Nat ← match a with
        | .variable name => modifyGet (fun m =>
            match m.content name, m.cell? name with
            | .table _, n => (n, m)
            | .value .missing, some n => (some n, m)
            | .value .missing, none =>
              if name = "NF" then (none, m)
              else
                let m := m.setContent name (.value .missing)
                (m.cell? name, m)
            | .value _, _ => (none, m))
        | _ => pure none
      match shared with
      | some n => pure (⟨parameter, n, true⟩ :: (← ownCells c fuel others rest))
      | none =>
        let v ← value c fuel a
        let n ← modifyGet (fun m => m.newCell (.value v))
        pure (⟨parameter, n, false⟩ :: (← ownCells c fuel others rest))

def call (c : Context) : Nat → String → List Expression → Act Value
  | 0, _, _ => throw .endless
  | fuel + 1, name, arguments => do
    match c.functions.find? (fun f => f.name = name) with
    | none => throw (.fault ("function " ++ name ++ " never defined"))
    | some f =>
      let before := (← get).own
      let own ← ownCells c fuel f.parameters arguments
      let leave : Act Unit := modify (fun m => { m with
        own := before
        cells := own.foldl
          (fun cells o => if o.borrowed then cells else cells.erase o.cell) m.cells })
      modify (fun m => { m with own })
      tryCatch
        (do
          perform c fuel f.body
          leave
          pure .missing)
        (fun halt => do
          leave
          match halt with
          | .giveBack v => pure v
          | halt => throw halt)

/-- Carries out a statement that a loop turns around; whether the loop goes on. -/
def turn (c : Context) : Nat → Statement → Act Bool
  | 0, _ => throw .endless
  | fuel + 1, s =>
    tryCatch
      (do
        carryOut c fuel s
        pure true)
      (fun halt =>
        match halt with
        | .leave => pure false
        | .again => pure true
        | halt => throw halt)

/-- A loop with a condition, which may be asked after the first turn only, and something that comes
after each turn. -/
def loop (c : Context) : Nat → Bool → Option Expression → Option Statement → Statement → Act Unit
  | 0, _, _, _, _ => throw .endless
  | fuel + 1, asks, condition, last, body => do
    let goesOn ← match asks, condition with
      | true, some e => do pure (← value c fuel e).isTrue
      | _, _ => pure true
    if goesOn then
      if ← turn c fuel body then
        match last with
        | some s => carryOut c fuel s
        | none => pure ()
        loop c fuel true condition last body

def loopThrough (c : Context) : Nat → String → List String → Statement → Act Unit
  | 0, _, _, _ => throw .endless
  | fuel + 1, name, keys, body => do
    match keys with
    | [] => pure ()
    | k :: rest =>
      setVariable name (.text k.toList)
      if ← turn c fuel body then loopThrough c fuel name rest body

def carryOut (c : Context) : Nat → Statement → Act Unit
  | 0, _ => throw .endless
  | fuel + 1, s => do
    let send (target : Option (Target × String)) (text : List Char) : Act Unit :=
      match target with
      | none => modify (fun m => m.keep text)
      | some (target, name) => sendTo target name text
    let targetOf (target : Option (Target × Expression)) : Act (Option (Target × String)) := do
      match target with
      | none => pure none
      | some (target, e) =>
        let name ← value c fuel e
        pure (some (target, String.ofList ((← get).text name)))
    match s with
    | .expression e => discard (value c fuel e)
    | .print es target =>
      let vs ← values c fuel es
      let target ← targetOf target
      let m ← get
      let vs := if es.isEmpty then [m.record] else vs
      let texts := vs.map (fun v => v.toText (m.setting "OFMT"))
      send target (List.intercalate (m.setting "OFS") texts ++ m.setting "ORS")
    | .format es target =>
      match ← values c fuel es with
      | [] => pure ()
      | format :: vs =>
        let target ← targetOf target
        formatting "printf" ((← get).text format) vs (send target)
    | .block parts => perform c fuel parts
    | .choice condition yes no =>
      if (← value c fuel condition).isTrue then carryOut c fuel yes
      else
        match no with
        | some s => carryOut c fuel s
        | none => pure ()
    | .whileDo condition body => loop c fuel true (some condition) none body
    | .doWhile body condition => loop c fuel false (some condition) none body
    | .forDo first condition last body =>
      match first with
      | some s => carryOut c fuel s
      | none => pure ()
      loop c fuel true condition last body
    | .forKeys name table body =>
      let keys ← withTable table (fun t =>
        let (t, keys) := t.keys
        (keys, t))
      loopThrough c fuel name keys body
    | .nextRecord => throw .nextRecord
    | .nextFile => throw .nextFile
    | .leave => throw .leave
    | .again => throw .again
    | .exit code =>
      match code with
      | some e =>
        let n := signedWhole (← value c fuel e).toNumber
        modify (fun m => { m with code := (n % 256).toNat })
      | none => pure ()
      throw .exit
    | .giveBack e =>
      match e with
      | some e => throw (.giveBack (← value c fuel e))
      | none => throw (.giveBack .missing)
    | .delete table keys =>
      match keys with
      | some keys =>
        let key ← key c fuel keys
        withTable table (fun t => ((), t.erase key))
      | none => withTable table (fun _ => ((), {}))

def perform (c : Context) : Nat → List Statement → Act Unit
  | 0, _ => throw .endless
  | fuel + 1, ss => do
    match ss with
    | [] => pure ()
    | s :: rest =>
      carryOut c fuel s
      perform c fuel rest

end

/-! ### Rules -/

def turnLimit : Nat := 4000000

/-- Whether a rule is for the record; one that is for records between two others may have begun. -/
def applies (c : Context) (n : Nat) : Trigger → Act Bool
  | .start | .finish => pure false
  | .always => pure true
  | .fits e => do pure (← value c turnLimit e).isTrue
  | .between first last => do
    let hasBegun := (← get).begun.contains n
    let isIn ← if hasBegun then pure true else do pure (← value c turnLimit first).isTrue
    if isIn then
      let ends := (← value c turnLimit last).isTrue
      modify (fun m => { m with
        begun := if ends then m.begun.erase n else if hasBegun then m.begun else n :: m.begun })
    pure isIn

def Rule.act (c : Context) (r : Rule) : Act Unit :=
  perform c turnLimit (r.body.getD [.print [] none])

def throughRecords (c : Context) (rules : List (Rule × Nat)) : Nat → Act Unit
  | 0 => throw .endless
  | fuel + 1 => do
    match ← nextRecord? (fun name s => assignText name s) argumentLimit with
    | none => pure ()
    | some s =>
      takeRecord s
      tryCatch
        (rules.forM (fun r => do
          if ← applies c r.2 r.1.trigger then r.1.act c))
        (fun halt =>
          match halt with
          | .nextRecord => pure ()
          | .nextFile => modify (fun m => { m with input := none })
          | halt => throw halt)
      throughRecords c rules fuel

/-- Does something that may ask for the end of the program; whether it did. -/
def untilExit (f : Act Unit) : Act Bool :=
  tryCatch
    (do
      f
      pure false)
    (fun halt =>
      match halt with
      | .exit => pure true
      | halt => throw halt)

def Program.carryOut (p : Program) (c : Context) : Act Unit := do
  let actAll (wanted : Trigger → Bool) : Act Unit :=
    (p.rules.filter (fun r => wanted r.trigger)).forM (fun r => r.act c)
  let hasLeft ← untilExit (actAll (fun t => match t with
    | .start => true
    | _ => false))
  if p.readsRecords then
    if !hasLeft then discard (untilExit (throughRecords c p.rules.zipIdx turnLimit))
    discard (untilExit (actAll (fun t => match t with
      | .finish => true
      | _ => false)))

def finishAll (c : Context) : Act Unit := do
  for o in (← get).outlets do
    if o.isCommand then discard (closeOutlet c.run o)
  releaseAll

end BuoyGateway.Shell.Rules
