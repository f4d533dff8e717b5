import BuoyGateway.Shell.Utility.Order

/-!
# Fields

A utility that takes fields, characters or octets out of lines.
-/

namespace BuoyGateway.Shell.Utility

/-! ### Fields -/

/-- A list of ranges of numbers from one on, each with its last one if it has one. -/
def ranges? (what : String) (s : String) : Except String (List (Nat × Option Nat)) :=
  (partsBy (fun c => c = ',' || c = ' ' || c = '\t') s.toList).mapM (fun part => do
    let invalid : Except String (Nat × Option Nat) :=
      .error ("invalid " ++ (if what = "fields" then "field value " else
        "byte/character position ") ++ quote (String.ofList part))
    let zero : Except String (Nat × Option Nat) :=
      .error ((if what = "fields" then "fields" else "byte/character positions") ++
        " are numbered from 1")
    let first := part.takeWhile (fun c => c != '-')
    if !first.all Char.isDigit then invalid
    else
      match part.drop first.length with
      | [] =>
        if first.isEmpty then zero
        else
          let n := Decimal.ofDigits first
          if n = 0 then zero else .ok (n, some n)
      | _ :: last =>
        if !last.all Char.isDigit then invalid
        else if first.isEmpty && last.isEmpty then
          .error "invalid range with no endpoint: -"
        else
          let a := if first.isEmpty then 1 else Decimal.ofDigits first
          if a = 0 then zero
          else if last.isEmpty then .ok (a, none)
          else
            let b := Decimal.ofDigits last
            if b < a then .error "invalid decreasing range" else .ok (a, some b))

def inList (ranges : List (Nat × Option Nat)) (n : Nat) : Bool :=
  ranges.any (fun r => r.1 ≤ n && (match r.2 with
    | some b => n ≤ b
    | none => true))

def picked {α : Type} (wanted : Nat → Bool) (l : List α) : List α :=
  (l.zipIdx 1).filterMap (fun e => if wanted e.2 then some e.1 else none)

def pickedRuns (ranges : List (Nat × Option Nat)) (complement : Bool) (s : List Char) :
    List (List Char) :=
  let starts (n : Nat) : Bool := ranges.any (fun r => r.1 = n)
  let marked := (s.zipIdx 1).filter (fun e => inList ranges e.2 != complement)
  (marked.foldl
    (fun (acc : List (List Char) × Option Nat) e =>
      match acc with
      | (run :: runs, some last) =>
        if last + 1 = e.2 && !(starts e.2 && !inList (ranges.filter (fun r => r.1 < e.2)) e.2)
        then ((e.1 :: run) :: runs, some e.2)
        else ([e.1] :: run :: runs, some e.2)
      | _ => ([[e.1]], some e.2))
    ([], none)).1.reverse.map List.reverse

def cut : Utility := fun _ call =>
  withFlags call
    [{ letter := 'b', word := "bytes", taking := .argument },
     { letter := 'c', word := "characters", taking := .argument },
     { letter := 'f', word := "fields", taking := .argument },
     { letter := 'd', word := "delimiter", taking := .argument },
     { letter := 'O', word := "output-delimiter", taking := .argument, isShort := false },
     { letter := 'C', word := "complement", isShort := false },
     { letter := 'n' }, { letter := 's', word := "only-delimited" },
     { letter := 'z', word := "zero-terminated" }] true 1
    (fun given => do
      let lists := given.flags.filter (fun f => f.1 ∈ ['b', 'c', 'f'])
      match lists with
      | [] =>
        match given.value? 'd' with
        | some d =>
          if 1 < d.length then misuse call "the delimiter must be a single character" 1
          else misuse call "you must specify a list of bytes, characters, or fields" 1
        | none => misuse call "you must specify a list of bytes, characters, or fields" 1
      | _ :: _ :: _ => misuse call "only one list may be specified" 1
      | [(kind, list)] =>
        let byFields := kind = 'f'
        let d := given.value? 'd'
        if d.any (fun d => 1 < d.length) then
          misuse call "the delimiter must be a single character" 1
        else if d.isSome && !byFields then
          misuse call "an input delimiter may be specified only when operating on fields" 1
        else if given.has 's' && !byFields then
          misuse call ("suppressing non-delimited lines makes sense\n\t" ++
            "only when operating on fields") 1
        else
          match ranges? (if byFields then "fields" else "bytes") list with
          | .error e => misuse call e 1
          | .ok ranges =>
            let complement := given.has 'C'
            let delimiter := match d with
              | some d => d.toList.headD '\x00'
              | none => '\t'
            let between := ((given.value? 'O').map String.toList).getD
              (if byFields then [delimiter] else [])
            let part (l : List Char) : Option (List Char) :=
              if byFields then
                if l.contains delimiter then
                  let fields := partsBy (fun c => c = delimiter) l
                  let wanted (n : Nat) : Bool := inList ranges n != complement
                  some (List.intercalate between (picked wanted fields))
                else if given.has 's' then none
                else some l
              else some (List.intercalate between (pickedRuns ranges complement l))
            mapFiles call (orInput given.others)
              (fun text => unlines ((lines text).filterMap part)))

end BuoyGateway.Shell.Utility
