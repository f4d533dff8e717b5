import BuoyGateway.Shell.Utility.Listing

/-!
# Comparing files

Files are compared octet by octet, or line by line with as few changes as lead from one to the
other.
-/

namespace BuoyGateway.Shell.Utility

/-! ### Octets -/

def misuseHere (call : Call) (text : String) : StateM Process Outcome := do
  complain call text
  complain call ("Try '" ++ call.name ++ " --help' for more information.")
  exited 2

def octetChanges (s t : List Char) : List (Nat × Char × Char) :=
  ((s.zip t).zipIdx 1).filterMap (fun e =>
    if e.1.1 = e.1.2 then none else some (e.2, e.1.1, e.1.2))

def cmp : Utility := fun _ call =>
  match options
    [{ letter := 'l', word := "verbose" }, { letter := 's', word := "quiet" },
     { letter := 'q', word := "silent", isShort := false },
     { letter := 'b', word := "print-bytes" },
     { letter := 'i', word := "ignore-initial", taking := .argument },
     { letter := 'n', word := "bytes", taking := .argument }] true [] [] call.arguments with
  | .error e => misuseHere call e
  | .ok (flags, others) => do
    let given : Given := ⟨flags, others⟩
    match others with
    | [] => misuseHere call ("missing operand after " ++ quote call.name)
    | first :: rest =>
      let second := rest.headD "-"
      let read (path : String) : StateM Process (Except SystemError (List Char)) := readFile path
      match ← read first with
      | .error e => fail call (first ++ ": " ++ e.wording) 2
      | .ok s =>
        match ← read second with
        | .error e => fail call (second ++ ": " ++ e.wording) 2
        | .ok t =>
          let skipped := match given.value? 'i' with
            | none => (0, 0)
            | some text =>
              match (partsBy (fun c => c = ':') text.toList).map Decimal.ofDigits with
              | [a, b] => (a, b)
              | a :: _ => (a, a)
              | [] => (0, 0)
          let own (k : Nat) : Option Nat := (rest[k]?).bind size?
          let s := s.drop ((own 1).getD skipped.1)
          let t := t.drop ((own 2).getD ((own 1).getD skipped.2))
          let cut (s : List Char) : List Char := match (given.value? 'n').bind size? with
            | some n => s.take n
            | none => s
          let s := cut s
          let t := cut t
          let changes := octetChanges s t
          let shorter := if s.length < t.length then first else second
          let n := min s.length t.length
          let linesOf := (s.take n).count '\n'
          let ended := s.length != t.length
          let octal (c : Char) : List Char := (Nat.toDigits 8 c.toNat).leftpad 3 ' '
          let silent := given.hasAny "sq"
          if silent then exited (if changes.isEmpty && !ended then 0 else 1)
          else if given.has 'l' then
            let width := (Decimal.digits (min s.length t.length)).length
            let row (e : Nat × Char × Char) : List Char :=
              (Decimal.digits e.1).leftpad width ' ' ++ [' '] ++ octal e.2.1 ++ [' '] ++
                octal e.2.2 ++ ['\n']
            if ended then
              complain call ("EOF on " ++ shorter ++
                (if n = 0 then " which is empty" else " after byte " ++ numeral n))
            put (changes.flatMap row)
            exited (if changes.isEmpty && !ended then 0 else 1)
          else
            match changes with
            | (place, a, b) :: _ =>
              let line := 1 + (s.take (place - 1)).count '\n'
              let shown := if given.has 'b' then
                  " differ: byte " ++ numeral place ++ ", line " ++ numeral line ++ " is " ++
                    String.ofList (octal a ++ [' ', a, ' '] ++ octal b ++ [' ', b])
                else " differ: char " ++ numeral place ++ ", line " ++ numeral line
              emit call (first ++ " " ++ second ++ shown ++ "\n").toList 1
            | [] =>
              if !ended then exited 0
              else if n = 0 then fail call ("EOF on " ++ shorter ++ " which is empty") 1
              else
                let isWhole := (s.take n).getLast? = some '\n'
                fail call ("EOF on " ++ shorter ++ " after byte " ++ numeral n ++
                  (if isWhole then ", line " ++ numeral linesOf
                    else ", in line " ++ numeral (linesOf + 1))) 1

/-! ### Lines -/

inductive LineChange
  | keep
  | remove
  | add
  deriving DecidableEq, Repr

/-- The lengths of what two lists have in common in order, for each end of the second list. -/
def commonRow (eq : List Char → List Char → Bool) (a : List Char) :
    List (List Char) → List Nat → List Nat
  | b :: bs, below :: more =>
    let rest := commonRow eq a bs more
    let right := rest.headD 0
    (if eq a b then more.headD 0 + 1 else max below right) :: rest
  | _, _ => [0]

/-- The lengths of what two lists have in common in order, for each end of both. -/
def commonTable (eq : List Char → List Char → Bool) (bs : List (List Char)) :
    List (List Char) → List (List Nat)
  | [] => [List.replicate (bs.length + 1) 0]
  | a :: as =>
    let table := commonTable eq bs as
    commonRow eq a bs (table.headD []) :: table

def lineChanges (eq : List Char → List Char → Bool) :
    Nat → List (List Char) → List (List Char) → List (List Nat) → List LineChange
  | 0, _, _, _ => []
  | _, [], bs, _ => bs.map (fun _ => .add)
  | _, as, [], _ => as.map (fun _ => .remove)
  | fuel + 1, a :: as, b :: bs, row :: rows =>
    if eq a b then .keep :: lineChanges eq fuel as bs (rows.map (fun r => r.drop 1))
    else
      let without := (rows.headD []).headD 0
      if (row.getD 1 0) ≤ without then .remove :: lineChanges eq fuel as (b :: bs) rows
      else .add :: lineChanges eq fuel (a :: as) bs ((row :: rows).map (fun r => r.drop 1))
  | _, as, bs, [] => as.map (fun _ => .remove) ++ bs.map (fun _ => .add)

/-- A run of changes: the first lines that it is about in both texts, from one on, and the lines
that are removed and added. -/
structure Hunk where
  first : Nat
  second : Nat
  removed : List (List Char)
  added : List (List Char)

def hunksOf : Nat → Nat → List LineChange → List (List Char) → List (List Char) → Option Hunk →
    List Hunk
  | _, _, [], _, _, open' => open'.toList
  | i, j, .keep :: rest, as, bs, open' =>
    open'.toList ++ hunksOf (i + 1) (j + 1) rest (as.drop 1) (bs.drop 1) none
  | i, j, .remove :: rest, as, bs, open' =>
    let h := open'.getD ⟨i, j, [], []⟩
    hunksOf (i + 1) j rest (as.drop 1) bs (some { h with removed := h.removed ++ as.take 1 })
  | i, j, .add :: rest, as, bs, open' =>
    let h := open'.getD ⟨i, j, [], []⟩
    hunksOf i (j + 1) rest as (bs.drop 1) (some { h with added := h.added ++ bs.take 1 })

/-- A range of lines; one that is empty is named by the line before it. -/
def rangeText (first length : Nat) : String :=
  if length = 0 then numeral (first - 1)
  else if length = 1 then numeral first
  else numeral first ++ "," ++ numeral (first + length - 1)

/-- A line with a mark in front of it, and with a note if its end is missing. -/
def markedLine (mark : String) (row : List Char) : String :=
  let text := mark ++ String.ofList row
  if row.getLast? = some '\n' then text else text ++ "\n\\ No newline at end of file\n"

def Hunk.text (h : Hunk) : String :=
  let n := h.removed.length
  let m := h.added.length
  let letter := if n = 0 then "a" else if m = 0 then "d" else "c"
  rangeText h.first n ++ letter ++ rangeText h.second m ++ "\n" ++
    String.join (h.removed.map (markedLine "< ")) ++
    (if n != 0 && m != 0 then "---\n" else "") ++ String.join (h.added.map (markedLine "> "))

/-- Runs of changes that lie so near to each other that they are shown together. -/
def nearHunks (context : Nat) : List Hunk → List (List Hunk)
  | [] => []
  | h :: hs =>
    match nearHunks context hs with
    | (g :: gs) :: others =>
      if g.first ≤ h.first + h.removed.length + 2 * context then (h :: g :: gs) :: others
      else [h] :: (g :: gs) :: others
    | others => [h] :: others

def unifiedText (context : Nat) (as : List (List Char)) (hs : List Hunk) : String :=
  match hs, hs.getLast? with
  | h :: _, some l =>
    let start := h.first - 1 - min context (h.first - 1)
    let finish := min as.length (l.first - 1 + l.removed.length + context)
    let start' := h.second - 1 - (h.first - 1 - start)
    let grown := (hs.map (fun h => h.added.length)).foldl (· + ·) 0
    let shrunk := (hs.map (fun h => h.removed.length)).foldl (· + ·) 0
    let n := finish - start
    let m := n + grown - shrunk
    let range (first length : Nat) : String :=
      if length = 1 then numeral (first + 1)
      else numeral (if length = 0 then first else first + 1) ++ "," ++ numeral length
    let plain (i k : Nat) : String :=
      String.join (((as.drop i).take (k - i)).map (markedLine " "))
    let step (acc : String × Nat) (h : Hunk) : String × Nat :=
      (acc.1 ++ plain acc.2 (h.first - 1) ++ String.join (h.removed.map (markedLine "-")) ++
        String.join (h.added.map (markedLine "+")), h.first - 1 + h.removed.length)
    let (body, place) := hs.foldl step ("", start)
    "@@ -" ++ range start n ++ " +" ++ range start' m ++ " @@\n" ++ body ++ plain place finish
  | _, _ => ""

structure LineEquality where
  anyCase : Bool
  anyBlanks : Bool
  noBlanks : Bool

def LineEquality.key (e : LineEquality) (row : List Char) : List Char :=
  let row := if e.anyCase then row.map Char.toUpper else row
  if e.noBlanks then row.filter (fun c => !c.isWhitespace)
  else if e.anyBlanks then List.intercalate [' '] ((words row))
  else row

def diffFlags : List Flag :=
  [{ letter := 'q', word := "brief" }, { letter := 's', word := "report-identical-files" },
   { letter := 'u' }, { letter := 'U', word := "unified", taking := .argument },
   { letter := 'r', word := "recursive" }, { letter := 'N', word := "new-file" },
   { letter := 'i', word := "ignore-case" }, { letter := 'b', word := "ignore-space-change" },
   { letter := 'w', word := "ignore-all-space" }, { letter := 'B', word := "ignore-blank-lines" },
   { letter := 'a', word := "text" }, { letter := 'd', word := "minimal" },
   { letter := 'L', word := "label", taking := .argument },
   { letter := 'M', word := "normal", isShort := false }]

def compareTextsOf (given : Given) (first second title : String) (times : String × String)
    (s t : List Char) : StateM Process Bool := do
  let e : LineEquality := ⟨given.has 'i', given.has 'b', given.has 'w'⟩
  let as := rows s
  let bs := rows t
  let eq (a b : List Char) : Bool := e.key a == e.key b
  let changes := lineChanges eq (as.length + bs.length + 1) as bs (commonTable eq bs as)
  let hunks := hunksOf 1 1 changes as bs none
  if hunks.isEmpty then
    if given.has 's' then
      put ("Files " ++ first ++ " and " ++ second ++ " are identical\n").toList
    pure false
  else if given.has 'q' then
    put ("Files " ++ first ++ " and " ++ second ++ " differ\n").toList
    pure true
  else
    let isUnified := given.hasAny "uU"
    let context := ((given.value? 'U').bind nat?).getD 3
    let labels := given.values 'L'
    let head (mark : String) (k : Nat) (path time : String) : String :=
      mark ++ " " ++ (labels[k]?).getD (path ++ "\t" ++ time) ++ "\n"
    let text :=
      if isUnified then
        head "---" 0 first times.1 ++ head "+++" 1 second times.2 ++
          String.join ((nearHunks context hunks).map (unifiedText context as))
      else String.join (hunks.map Hunk.text)
    put (title ++ text).toList
    pure true

/-- Compares two files, or the files of two directories; the code is 2 if that cannot be done. -/
def comparePaths (call : Call) (given : Given) :
    Nat → Bool → String → String → StateM Process Nat
  | 0, _, _, _ => pure 2
  | depth + 1, isInner, first, second => do
    let p ← get
    let isDirectory (path : String) : Bool := (p.node? path).any Node.isDirectory
    let into (dir path : String) : String := inDirectory dir (lastName path)
    if isDirectory first && isDirectory second then
      let namesIn (path : String) : List String :=
        ((p.locateDirectory path).toOption.map p.namesAt).getD []
      let all := (namesIn first ++ namesIn second).eraseDups.mergeSort Process.nameBefore
      let step (code : Nat) (name : String) : StateM Process Nat := do
        let only (dir : String) : StateM Process Nat := do
          put ("Only in " ++ dir ++ ": " ++ name ++ "\n").toList
          pure (max code 1)
        if !(namesIn second).contains name && !given.has 'N' then only first
        else if !(namesIn first).contains name && !given.has 'N' then only second
        else
          let a := inDirectory first name
          let b := inDirectory second name
          if isDirectory a && isDirectory b && !given.has 'r' then
            put ("Common subdirectories: " ++ a ++ " and " ++ b ++ "\n").toList
            pure code
          else pure (max code (← comparePaths call given depth true a b))
      all.foldlM step 0
    else
      let a := if isDirectory first then into first second else first
      let b := if isDirectory second then into second first else second
      let isThere (path : String) : Bool := path = "-" || (p.node? path).isSome
      let read (path : String) : StateM Process (Except SystemError (List Char)) := do
        if given.has 'N' && !isThere path then pure (.ok []) else readFile path
      let time (path : String) : String :=
        let t := match p.node? path with
          | some node => node.modified
          | none => p.instant
        momentText "%Y-%m-%d %H:%M:%S.%N %z" t
      let flags := String.join ((given.flags.filter (fun f => f.1 != 'L')).map (fun f =>
        " -" ++ String.singleton f.1 ++ (if f.2 = "" then "" else " " ++ f.2)))
      let title := if isInner && !given.has 'q' then
          call.name ++ flags ++ " " ++ a ++ " " ++ b ++ "\n" else ""
      let s ← read a
      let t ← read b
      let mut failed := false
      if let .error e := s then
        complain call (a ++ ": " ++ e.wording)
        failed := true
      if let .error e := t then
        complain call (b ++ ": " ++ e.wording)
        failed := true
      match s, t with
      | .ok s, .ok t =>
        if s.contains '\x00' || t.contains '\x00' then
          if s = t then pure 0
          else
            put ("Binary files " ++ a ++ " and " ++ b ++ " differ\n").toList
            pure 2
        else
          pure (if ← compareTextsOf given a b title (time a, time b) s t then 1 else 0)
      | _, _ => pure (if failed then 2 else 2)

def diff : Utility := fun _ call =>
  match options diffFlags true [] [] call.arguments with
  | .error e => misuseHere call e
  | .ok (flags, others) => do
    let given : Given := ⟨flags, others⟩
    match others with
    | [] => misuseHere call ("missing operand after " ++ quote call.name)
    | [one] => misuseHere call ("missing operand after " ++ quote one)
    | [first, second] => do exited (← comparePaths call given depthLimit false first second)
    | _ :: _ :: extra :: _ => misuseHere call ("extra operand " ++ quote extra)

end BuoyGateway.Shell.Utility
