import BuoyGateway.Shell.Utility.Order

/-!
# Two ordered files

Utilities that go through two files side by side, line by line, and rely on their order. If a line
is out of order, that is told once for each file, but not before a line was found that has no
partner.
-/

namespace BuoyGateway.Shell.Utility

/-! ### Going through two files -/

inductive OrderCheck
  | never
  | usual
  | strict
  deriving DecidableEq, Repr

/-- What comes of going through two files, in its order: lines and faults. -/
inductive Noted
  | line (s : List Char)
  | fault (text : String)

/-- One of two files that are gone through: its lines with their numbers, and what came of it. -/
structure OrderedFile where
  left : List (Nat × List Char)
  last : Option (List Char) := none
  told : Bool := false

def OrderedFile.ofText (stop : Char) (text : List Char) : OrderedFile :=
  let all := (rowsBy stop text).map (fun row =>
    if row.getLast? = some stop then row.dropLast else row)
  { left := (all.zipIdx 1).map (fun e => (e.2, e.1)) }

structure Pairing where
  check : OrderCheck
  first : OrderedFile
  second : OrderedFile
  alone : Bool := false
  noted : List Noted := []
  stopped : Bool := false

namespace Pairing

abbrev Going (α : Type) := StateM Pairing α

def note (n : Noted) : Going Unit :=
  modify (fun p => if p.stopped then p else { p with noted := n :: p.noted })

def foundAlone : Going Unit := modify (fun p => { p with alone := true })

def file (p : Pairing) (isFirst : Bool) : OrderedFile := if isFirst then p.first else p.second

def change (isFirst : Bool) (f : OrderedFile → OrderedFile) : Going Unit :=
  modify (fun p =>
    if isFirst then { p with first := f p.first } else { p with second := f p.second })

def checkOrder (isFirst : Bool) (isAfter : List Char → List Char → Bool) (fault : String)
    (before line : List Char) : Going Unit := do
  let p ← get
  let looks := p.check = .strict || (p.check = .usual && p.alone)
  if looks && !(p.file isFirst).told && isAfter before line then
    note (.fault fault)
    change isFirst (fun f => { f with told := true })
    if p.check = .strict then modify (fun p => { p with stopped := true })

def isTold (p : Pairing) : Bool := p.first.told || p.second.told

end Pairing

def concludePairing (call : Call) (p : Pairing) : StateM Process Outcome := do
  for n in p.noted.reverse do
    match n with
    | .line s => put s
    | .fault text => complain call text
  if p.stopped then exited 1
  else if p.isTold then fail call "input is not in sorted order" 1
  else exited 0

def withTwoFiles (call : Call) (others : List String)
    (f : String → String → List Char → List Char → StateM Process Outcome) :
    StateM Process Outcome :=
  match others with
  | [] => misuse call "missing operand" 1
  | [a] => misuse call ("missing operand after " ++ quote a) 1
  | _ :: _ :: extra :: _ => misuse call ("extra operand " ++ quote extra) 1
  | [a, b] => do
    match ← readFile a with
    | .error e => fail call (showName a ++ ": " ++ e.wording) 1
    | .ok s =>
      match ← readFile b with
      | .error e => fail call (showName b ++ ": " ++ e.wording) 1
      | .ok t => f a b s t

def orderCheck (given : Given) : OrderCheck :=
  match given.last? "NP" with
  | some 'N' => .never
  | some _ => .strict
  | none => .usual

/-! ### What two files have in common -/

inductive Found
  | first
  | second
  | both
  deriving DecidableEq, Repr

/-- Compares lines from a place on; `here` and `before` are the lines of both files that were read
last and those before them. -/
def compareFrom (written : Found → List Char → List Char) :
    Nat → Option (List Char) × Option (List Char) → Option (List Char) × Option (List Char) →
    Pairing.Going Unit
  | 0, _, _ => pure ()
  | fuel + 1, a, b => do
    let next (isFirst : Bool) (l : Option (List Char) × Option (List Char)) :
        Pairing.Going (Option (List Char) × Option (List Char)) := do
      let fault := "file " ++ (if isFirst then "1" else "2") ++ " is not in sorted order"
      let isAfter (x y : List Char) : Bool := compareTexts x y == .gt
      match ((← get).file isFirst).left, l with
      | (_, line) :: left, (here, _) =>
        Pairing.change isFirst (fun f => { f with left })
        if let some here := here then
          Pairing.checkOrder isFirst isAfter fault here line
        pure (some line, here)
      | [], (some here, before) =>
        if let some before := before then
          Pairing.checkOrder isFirst isAfter fault before here
        pure (none, some here)
      | [], (none, before) => pure (none, before)
    let found (where' : Found) (line : List Char) : Pairing.Going Unit := do
      if where' != .both then Pairing.foundAlone
      let text := written where' line
      if !text.isEmpty then Pairing.note (.line text)
    let order : Ordering := match a.1, b.1 with
      | none, _ => .gt
      | _, none => .lt
      | some x, some y => compareTexts x y
    match order, a.1, b.1 with
    | _, none, none => pure ()
    | .lt, some x, _ =>
      found .first x
      compareFrom written fuel (← next true a) b
    | .gt, _, some y =>
      found .second y
      compareFrom written fuel a (← next false b)
    | _, some x, _ =>
      found .both x
      let a ← next true a
      compareFrom written fuel a (← next false b)
    | _, none, some _ => pure ()

def comm : Utility := fun _ call =>
  withFlags call
    [{ letter := '1' }, { letter := '2' }, { letter := '3' },
     { letter := 'O', word := "output-delimiter", taking := .argument, isShort := false },
     { letter := 'N', word := "nocheck-order", isShort := false },
     { letter := 'P', word := "check-order", isShort := false },
     { letter := 'z', word := "zero-terminated" }] true 1
    (fun given => withTwoFiles call given.others (fun _ _ s t =>
      let delimiter := ((given.value? 'O').getD "\t").toList
      let tab (c : Char) : List Char := if given.has c then [] else delimiter
      let stop := if given.has 'z' then '\x00' else '\n'
      let column (where' : Found) : Option (List Char) :=
        match where' with
        | .first => if given.has '1' then none else some []
        | .second => if given.has '2' then none else some (tab '1')
        | .both => if given.has '3' then none else some (tab '1' ++ tab '2')
      let row (where' : Found) (line : List Char) : List Char :=
        match column where' with
        | some lead => lead ++ line ++ [stop]
        | none => []
      let start : Pairing :=
        { check := orderCheck given
          first := .ofText stop s, second := .ofText stop t }
      let lines := start.first.left.length + start.second.left.length
      let firstOf (f : OrderedFile) : Option (List Char) := f.left.head?.map Prod.snd
      let begun : Pairing :=
        { start with
          first := { start.first with left := start.first.left.drop 1 }
          second := { start.second with left := start.second.left.drop 1 } }
      let (_, p) := compareFrom row (lines + 1) (firstOf start.first, none)
        (firstOf start.second, none) begun
      concludePairing call p))

/-! ### Joining by a field -/

structure FieldLine where
  text : List Char
  fields : List (List Char)

structure JoinSettings where
  tab : Option Char
  stop : Char
  anyCase : Bool
  firstField : Nat
  secondField : Nat
  names : String × String
  filler : List Char
  /-- The fields that are written, where that was said: the file and the field, zero for the one by
  which lines are joined. -/
  chosen : Option (List (Nat × Nat))
  counts : Option (Nat × Nat)
  pairs : Bool
  firstAlone : Bool
  secondAlone : Bool

namespace JoinSettings

def lineOf (j : JoinSettings) (text : List Char) : FieldLine :=
  match j.tab with
  | some c => ⟨text, partsBy (fun d => d = c) text⟩
  | none => ⟨text, words text⟩

def fieldOf (j : JoinSettings) (isFirst : Bool) : Nat :=
  if isFirst then j.firstField else j.secondField

def keyOf (j : JoinSettings) (isFirst : Bool) (l : FieldLine) : List Char :=
  let key := l.fields.getD (j.fieldOf isFirst) []
  if j.anyCase then key.map Char.toUpper else key

/-- What is written for a line of the first file, a line of the second one, or both. -/
def row (j : JoinSettings) (a b : Option FieldLine) : List Char :=
  let fill (v : Option (List Char)) : List Char :=
    match v with
    | none | some [] => j.filler
    | some v => v
  let field (l : Option FieldLine) (n : Nat) : List Char :=
    fill (l.bind (fun l => l.fields[n]?))
  let common := match a with
    | some _ => field a j.firstField
    | none => field b j.secondField
  let others (l : Option FieldLine) (key : Nat) (count : Option Nat) : List (List Char) :=
    let n := count.getD ((l.map (fun l => l.fields.length)).getD 0)
    ((List.range n).filter (fun i => i != key)).map (field l)
  let fields := match j.chosen with
    | some chosen => chosen.map (fun c =>
        if c.1 = 0 then common else if c.1 = 1 then field a (c.2 - 1) else field b (c.2 - 1))
    | none =>
      common :: (others a j.firstField (j.counts.map Prod.fst) ++
        others b j.secondField (j.counts.map Prod.snd))
  List.intercalate [j.tab.getD ' '] fields ++ [j.stop]

def next (j : JoinSettings) (isFirst : Bool) : Pairing.Going (Option FieldLine) := do
  let f := (← get).file isFirst
  match f.left with
  | [] => pure none
  | (n, text) :: left =>
    Pairing.change isFirst (fun f => { f with left, last := some text })
    if let some last := f.last then
      let isAfter (x y : List Char) : Bool :=
        compareTexts (j.keyOf isFirst (j.lineOf x)) (j.keyOf isFirst (j.lineOf y)) == .gt
      let name := if isFirst then j.names.1 else j.names.2
      Pairing.checkOrder isFirst isAfter
        (name ++ ":" ++ numeral n ++ ": is not sorted: " ++ String.ofList text) last text
    pure (some (j.lineOf text))

/-- Reads the lines of a file that have the same key, and the one after them. -/
def same (j : JoinSettings) (isFirst : Bool) (key : List Char) :
    Nat → List FieldLine → Pairing.Going (List FieldLine × Option FieldLine)
  | 0, found => pure (found.reverse, none)
  | fuel + 1, found => do
    match ← j.next isFirst with
    | none => pure (found.reverse, none)
    | some l =>
      if compareTexts (j.keyOf isFirst l) key == .eq then same j isFirst key fuel (l :: found)
      else pure (found.reverse, some l)

def writeAlone (j : JoinSettings) (isFirst : Bool) (l : FieldLine) : Pairing.Going Unit :=
  if isFirst then if j.firstAlone then Pairing.note (.line (j.row (some l) none)) else pure ()
  else if j.secondAlone then Pairing.note (.line (j.row none (some l))) else pure ()

def rest (j : JoinSettings) (isFirst : Bool) : Nat → Pairing.Going Unit
  | 0 => pure ()
  | fuel + 1 => do
    match ← j.next isFirst with
    | none => pure ()
    | some l =>
      j.writeAlone isFirst l
      rest j isFirst fuel

def joinFrom (j : JoinSettings) : Nat → Option FieldLine → Option FieldLine → Pairing.Going Unit
  | 0, _, _ => pure ()
  | fuel + 1, a, b => do
    let finish (isFirst : Bool) (l : Option FieldLine) (isOther : Bool) : Pairing.Going Unit := do
      if let some l := l then
        j.writeAlone isFirst l
        if isOther then Pairing.foundAlone
        j.rest isFirst (fuel + 1)
    match a, b with
    | some x, some y =>
      match compareTexts (j.keyOf true x) (j.keyOf false y) with
      | .lt =>
        j.writeAlone true x
        let a ← j.next true
        Pairing.foundAlone
        joinFrom j fuel a b
      | .gt =>
        j.writeAlone false y
        let b ← j.next false
        Pairing.foundAlone
        joinFrom j fuel a b
      | .eq =>
        let (xs, a) ← j.same true (j.keyOf false y) (fuel + 1) [x]
        let (ys, b) ← j.same false (j.keyOf true x) (fuel + 1) [y]
        if j.pairs then
          for x in xs do
            for y in ys do
              Pairing.note (.line (j.row (some x) (some y)))
        joinFrom j fuel a b
    | a, b =>
      finish true a b.isSome
      finish false b a.isSome

end JoinSettings

def chosenField (w : List Char) : Except String (Nat × Nat) := do
  let shown := quote (String.ofList w)
  match w with
  | ['0'] => pure (0, 0)
  | c :: rest =>
    if c != '1' && c != '2' then
      throw ((if c = '0' then "invalid field specifier: " else
        "invalid file number in field spec: ") ++ shown)
    else
      match rest with
      | '.' :: digits =>
        if digits.isEmpty || !digits.all Char.isDigit || Decimal.ofDigits digits = 0 then
          throw ("invalid field number: " ++ quote (String.ofList digits))
        else pure (if c = '1' then 1 else 2, Decimal.ofDigits digits)
      | _ => throw ("invalid field specifier: " ++ shown)
  | [] => throw ("invalid file number in field spec: " ++ shown)

/-- How lines are joined, as options tell; `counts` are the numbers of fields in the first lines. -/
def joinSettings (given : Given) (names : String × String) : Except String JoinSettings := do
  let tab ← match given.value? 't' with
    | none => pure none
    | some "" => pure (some '\n')
    | some s => tabOf s
  let number (c : Char) : Except String Nat :=
    match given.value? c with
    | none => pure 0
    | some s =>
      match nat? s with
      | some (n + 1) => pure n
      | _ => throw ("invalid field number: " ++ quote s)
  let shared ← number 'j'
  let first ← number '1'
  let second ← number '2'
  for s in given.values 'a' ++ given.values 'v' do
    if s != "1" && s != "2" then throw ("invalid field number: " ++ quote s)
  let formats := (given.values 'o').filter (fun s => s != "auto")
  let chosen ← (formats.flatMap (fun s =>
    partsBy (fun c => c = ',' || c = ' ' || c = '\t') s.toList)).mapM chosenField
  let alone (side : String) : Bool :=
    (given.values 'a').contains side || (given.values 'v').contains side
  pure {
    tab, names
    stop := if given.has 'z' then '\x00' else '\n'
    anyCase := given.has 'i'
    firstField := if given.has '1' then first else shared
    secondField := if given.has '2' then second else shared
    filler := ((given.value? 'e').getD "").toList
    chosen := if formats.isEmpty then none else some chosen
    counts := if (given.values 'o').contains "auto" then some (0, 0) else none
    pairs := !given.has 'v'
    firstAlone := alone "1"
    secondAlone := alone "2" }

def join : Utility := fun _ call =>
  withFlags call
    ([{ letter := 'i', word := "ignore-case" }, { letter := 'z', word := "zero-terminated" },
      { letter := 'H', word := "header", isShort := false },
      { letter := 'N', word := "nocheck-order", isShort := false },
      { letter := 'P', word := "check-order", isShort := false }] ++ fullFlags "12jtoaev") true 1
    (fun given =>
      match joinSettings given (given.others.headD "", given.others.getD 1 "") with
      | .error e => fail call e 1
      | .ok j => withTwoFiles call given.others (fun _ _ s t =>
        let start : Pairing :=
          { check := orderCheck given
            first := .ofText j.stop s, second := .ofText j.stop t }
        let lines := start.first.left.length + start.second.left.length
        let size (f : OrderedFile) : Nat :=
          ((f.left.head?).map (fun l => (j.lineOf l.2).fields.length)).getD 0
        let j := { j with counts := j.counts.map (fun _ => (size start.first, size start.second)) }
        let work : Pairing.Going Unit := do
          let a ← j.next true
          let b ← j.next false
          if given.has 'H' && (a.isSome || b.isSome) then
            Pairing.note (.line (j.row a b))
            modify (fun (p : Pairing) => { p with
              first := { p.first with last := none }
              second := { p.second with last := none } })
            let a ← j.next true
            j.joinFrom (lines + 1) a (← j.next false)
          else j.joinFrom (lines + 1) a b
        concludePairing call (work start).2))

end BuoyGateway.Shell.Utility
