import BuoyGateway.Shell.Builtin.Control
import BuoyGateway.Shell.Field

/-!
# Commands for variables

They let programs see variables, protect them, make them the own ones of a function, take them away,
and fill them from lines and from options.
-/

namespace BuoyGateway.Shell.Builtin

def refusal? (p : Process) (name : String) : Option String :=
  if !isName name.toList then some (name ++ ": bad variable name")
  else if p.isFixed name then some (name ++ ": is read only")
  else none

def assign (name value : String) : StateM Process Flow := do
  let p ← get
  match refusal? p name with
  | some e => abort e
  | none =>
    set (p.assign name value)
    pure .next

/-- Does something for each of some arguments, as long as nothing goes wrong. -/
def forEach {α : Type} (f : α → StateM Process Flow) : List α → StateM Process Flow
  | [] => pure .next
  | a :: rest => do
    match ← f a with
    | .next => forEach f rest
    | flow => pure flow

/-- Changes the variables that are named, after giving them the values that they are named with. -/
def declare (change : Variable → Variable) (a : String) : StateM Process Flow := do
  let p ← get
  let (name, value) := nameAndValue a
  let known := value.isNone && (p.bindings.lookup name).isSome
  match if known then none else refusal? p name with
  | some e => abort e
  | none =>
    let p := match value with
      | some value => p.assign name value
      | none => p
    set (p.changeVariable name change)
    done 0

def declaring (lead : String) (wanted : Variable → Bool) (change : Variable → Variable) : Builtin :=
  fun arguments =>
    if (arguments.head?.map (fun a => a.startsWith "-p")).getD true then do
      emit (variableListing (← get) lead wanted).toList 0
    else
      withOptions "" arguments (fun _ rest => do
        if !rest.isEmpty then forEach (declare change) rest
        else emit (variableListing (← get) lead wanted).toList 0)

def export' : Builtin :=
  declaring "export " Variable.exported (fun v => { v with exported := true })

def readonly : Builtin :=
  declaring "readonly " Variable.fixed (fun v => { v with fixed := true })

def local' : Builtin := fun arguments => do
  if (← get).scopes.isEmpty then abort "not in a function"
  else
    let keep (a : String) : StateM Process Flow := do
      if a = "-" then
        modify (fun p => match p.scopes with
          | [] => p
          | scope :: scopes =>
            let switches := scope.switches.getD p.switches
            { p with scopes := { scope with switches := some switches } :: scopes })
        pure .next
      else
        let (name, value) := nameAndValue a
        modify (fun p => p.keepVariable name)
        match isName name.toList, value with
        | true, some value => assign name value
        | true, none => pure .next
        | false, value =>
          if value.isSome then modify (fun p => { p with context := none })
          abort (name ++ ": bad variable name")
    match ← forEach keep arguments with
    | .next => done 0
    | flow => pure flow

def unset : Builtin := fun arguments =>
  withOptions "vf" arguments (fun found names => do
    let functions := found.getLast?.any (fun o => o.1 = 'f')
    let remove (name : String) : StateM Process Flow := do
      let p ← get
      if functions then
        set { p with functions := p.functions.filter (fun f => f.1 != name) }
        pure .next
      else
        let name := (nameAndValue name).1
        match refusal? p name with
        | some e => abort e
        | none =>
          set (p.unset name)
          pure .next
    match ← forEach remove names with
    | .next => done 0
    | flow => pure flow)

/-! ### Reading lines -/

def lineGlyphs (raw : Bool) : List Char → List Glyph
  | [] => []
  | ['\\'] => if raw then [('\\', false)] else []
  | '\\' :: c :: s =>
    if raw then ('\\', false) :: lineGlyphs raw (c :: s) else (c, true) :: lineGlyphs raw s
  | c :: s => (c, false) :: lineGlyphs raw s

/-- Fields that a line is being cut into: those that are whole and the one that was begun, the
latest first, whether the last one ended with white space, and how many more there may be. The last
field takes all that is left, and `cut` is how much of it stays if nothing else comes. -/
structure Cutting where
  whole : List String := []
  begun : List Char := []
  spaced : Bool := false
  left : Nat
  cut : Option Nat := none

def Cutting.step (separators : List Char) (c : Cutting) (g : Glyph) : Cutting :=
  let separates := !g.2 && separators.contains g.1
  let blank := separates && g.1 ∈ [' ', '\t', '\n']
  let grown := { c with begun := g.1 :: c.begun }
  if g.2 then { grown with spaced := false }
  else if c.left = 0 then
    if blank then { grown with cut := some (c.cut.getD c.begun.length) }
    else
      { grown with cut := if separates && c.spaced then c.cut else none, spaced := false }
  else if c.spaced && separates then { c with spaced := blank }
  else if !separates then { grown with spaced := false }
  else if blank && c.begun.isEmpty then { c with spaced := false }
  else if c.left = 1 then { grown with left := 0, cut := some c.begun.length, spaced := blank }
  else
    { c with
      whole := String.ofList c.begun.reverse :: c.whole
      begun := []
      spaced := blank
      left := c.left - 1 }

def cutLine (separators : List Char) (count : Nat) (line : List Glyph) : List String :=
  let c := line.foldl (Cutting.step separators) { left := count }
  let last := c.begun.reverse
  let last := match c.cut with
    | some n => last.take n
    | none => last
  (if last.isEmpty then c.whole else String.ofList last :: c.whole).reverse

/-- Reads a line, with those that it is joined to by backslashes: its characters, and whether it was
ended. -/
def readJoined (raw : Bool) : Nat → Process → Except SystemError (List Char × Bool × Process)
  | 0, p => .ok ([], false, p)
  | fuel + 1, p => do
    let (line, ended, p) ← p.readLine 0
    let slashes := (line.reverse.takeWhile (fun c => c = '\\')).length
    if !raw && ended && slashes % 2 = 1 then
      let (more, ended, p) ← readJoined raw fuel p
      pure (line.dropLast ++ more, ended, p)
    else pure (line, ended, p)

def joinLimit : Nat := 10000

def read : Builtin := fun arguments =>
  withOptions "p:r" arguments (fun found names => do
    let raw := found.any (fun o => o.1 = 'r')
    if names.isEmpty then abort "arg count"
    else
      let p ← get
      let (line, ended) ← (match readJoined raw joinLimit p with
        | .error _ => pure ([], false)
        | .ok (line, ended, p) => do
          set p
          pure (line, ended) : StateM Process (List Char × Bool))
      let glyphs := lineGlyphs raw (line.filter (fun c => c != '\x00'))
      let values := cutLine p.separators names.length glyphs
      let entries := names.zip (values ++ List.replicate names.length "")
      match ← forEach (fun e => assign e.1 e.2) entries with
      | .next => done (if ended then 0 else 1)
      | flow => pure flow)

/-! ### Options of the script -/

def nextOption (letters : List Char) (name : String) (arguments : List String) :
    StateM Process Flow := do
  let p ← get
  let silent := letters.head? = some ':'
  let finish (code place : Nat) (offset : Option Nat) (found : Char) (value : Option String) :
      StateM Process Flow := do
    modify (fun p => match value with
      | some v => p.assign "OPTARG" v
      | none => p.unset "OPTARG")
    match ← assign "OPTIND" (Signal.numeral place) with
    | .next =>
      match ← assign name (String.singleton found) with
      | .next =>
        modify (fun p => { p with optionPlace := (place, offset) })
        done code
      | flow => pure flow
    | flow => pure flow
  let (place, offset) := p.optionPlace
  let inWord : List Char := match offset with
    | some n => if 2 ≤ place then ((arguments[place - 2]?.getD "").toList).drop n else []
    | none => []
  let word := (arguments[place - 1]?.getD "").toList
  if inWord.isEmpty && !(word.head? = some '-' && 2 ≤ word.length) then do
    match ← assign "OPTIND" (Signal.numeral place) with
    | .next =>
      match ← assign name "?" with
      | .next =>
        modify (fun p => { p with optionPlace := (place, none) })
        done 1
      | flow => pure flow
    | flow => pure flow
  else if inWord.isEmpty && word = ['-', '-'] then do
    match ← assign "OPTIND" (Signal.numeral (place + 1)) with
    | .next =>
      match ← assign name "?" with
      | .next =>
        modify (fun p => { p with optionPlace := (place + 1, none) })
        done 1
      | flow => pure flow
    | flow => pure flow
  else
    let (place, offset, s) : Nat × Nat × List Char :=
      if inWord.isEmpty then (place + 1, 1, word.drop 1) else (place, offset.getD 0, inWord)
    match s with
    | [] => done 1
    | c :: s =>
      let known := letters.dropWhile (fun d => d != c)
      let onward : Option Nat := some (offset + 1)
      if known.isEmpty || c = ':' then
        if silent then finish 0 place onward '?' (some (String.singleton c))
        else
          modify (fun p => p.say 2 ("Illegal option -" ++ String.singleton c ++ "\n").toList)
          finish 0 place onward '?' none
      else if known[1]? = some ':' then
        if !s.isEmpty then finish 0 place none c (some (String.ofList s))
        else
          match arguments[place - 1]? with
          | some a => finish 0 (place + 1) none c (some a)
          | none =>
            if silent then finish 0 place onward ':' (some (String.singleton c))
            else
              modify (fun p =>
                p.say 2 ("No arg for -" ++ String.singleton c ++ " option\n").toList)
              finish 0 place onward '?' none
      else finish 0 place onward c (some "")

def getopts : Builtin := fun arguments => do
  match arguments with
  | letters :: name :: others =>
    let p ← get
    let words := if others.isEmpty then p.arguments else others
    if words.length + 1 < p.optionPlace.1 then set { p with optionPlace := (1, none) }
    nextOption letters.toList name words
  | _ => abort "Usage: getopts optstring var [arg...]"

end BuoyGateway.Shell.Builtin
