import BuoyGateway.Shell.Utility.Basic

/-!
# Portions of files

Files are cut to a size, copied in blocks, or split into others.
-/

namespace BuoyGateway.Shell.Utility

/-! ### Sizes -/

def newSize? (s : String) : Option (Nat → Nat) :=
  match s.toList with
  | '+' :: rest => (size? (String.ofList rest)).map (fun n old => old + n)
  | '-' :: rest => (size? (String.ofList rest)).map (fun n old => old - n)
  | '<' :: rest => (size? (String.ofList rest)).map (fun n old => min n old)
  | '>' :: rest => (size? (String.ofList rest)).map (fun n old => max n old)
  | '/' :: rest => (size? (String.ofList rest)).map (fun n old => old / n * n)
  | '%' :: rest => (size? (String.ofList rest)).map (fun n old => (old + n - 1) / n * n)
  | _ => (size? s).map (fun n _ => n)

def truncate : Utility := fun _ call =>
  withFlags call
    [{ letter := 's', word := "size", taking := .argument },
     { letter := 'r', word := "reference", taking := .argument },
     { letter := 'c', word := "no-create" }, { letter := 'o', word := "io-blocks" }] true 1
    (fun given => do
      let p ← get
      let sizeOf (path : String) : Option Nat :=
        match (p.node? path).map Node.content with
        | some (.file octets _) => some octets.length
        | _ => none
      let wanted : Except String (Nat → Nat) := match given.value? 's', given.value? 'r' with
        | some s, _ =>
          match newSize? s with
          | some f => .ok f
          | none => .error ("Invalid number: " ++ quote s)
        | none, some path =>
          match sizeOf path with
          | some n => .ok (fun _ => n)
          | none => .error ("cannot stat " ++ quote path ++ ": No such file or directory")
        | none, none => .ok (fun n => n)
      let isSaid := given.hasAny "sr"
      match wanted with
      | .error e => fail call e 1
      | .ok f =>
        if !isSaid then misuse call "you must specify either '--size' or '--reference'" 1
        else if given.others.isEmpty then misuse call "missing file operand" 1
        else
          let cut (code : Nat) (path : String) : StateM Process Nat := do
            if given.has 'c' && ((← get).node? path).isNone then pure code
            else
              let before ← if ((← get).node? path).isSome then readFile path else pure (.ok [])
              let text := before.toOption.getD []
              let n := f text.length
              let filled := text.take n ++ List.replicate (n - text.length) '\x00'
              match ← writeFile path false filled with
              | .ok () => pure code
              | .error e =>
                complain call ("cannot open " ++ quoteName path ++ " for writing: " ++ e.wording)
                pure 1
          exited (← given.others.foldlM cut 0))

/-! ### Blocks -/

structure BlockCopy where
  source : Option String := none
  target : Option String := none
  size : Nat := 512
  count : Option Nat := none
  skipped : Nat := 0
  sought : Nat := 0
  changes : List String := []
  status : String := ""

def BlockCopy.adding (c : BlockCopy) (word : String) : Except String BlockCopy :=
  let name := String.ofList (word.toList.takeWhile (fun d => d != '='))
  let value := String.ofList (word.toList.drop (name.length + 1))
  let number (f : Nat → BlockCopy) : Except String BlockCopy :=
    match size? value with
    | some n => .ok (f n)
    | none => .error ("invalid number: " ++ quote value)
  if name.length = word.length then .error ("unrecognized operand " ++ quote word)
  else
    match name with
    | "if" => .ok { c with source := some value }
    | "of" => .ok { c with target := some value }
    | "bs" | "ibs" => number (fun n => { c with size := n })
    | "obs" | "cbs" => number (fun _ => c)
    | "count" => number (fun n => { c with count := some n })
    | "skip" | "iseek" => number (fun n => { c with skipped := n })
    | "seek" | "oseek" => number (fun n => { c with sought := n })
    | "conv" => .ok { c with changes := c.changes ++ value.splitOn "," }
    | "status" => .ok { c with status := value }
    | "iflag" | "oflag" => .ok c
    | _ => .error ("unrecognized operand " ++ quote word)

def dd : Utility := fun _ call => do
  let words := if call.arguments.head? = some "--" then call.arguments.drop 1 else call.arguments
  match words.foldlM BlockCopy.adding {} with
  | .error e =>
    if e.startsWith "unrecognized" then misuse call e 1 else fail call e 1
  | .ok c =>
    match ← readFile (c.source.getD "-") with
    | .error .isDirectory =>
      fail call ("error reading " ++ quote (c.source.getD "") ++ ": Is a directory") 1
    | .error e =>
      fail call ("failed to open " ++ quote (c.source.getD "") ++ ": " ++ e.wording) 1
    | .ok text =>
      let size := max c.size 1
      let rest := text.drop (size * c.skipped)
      let part := match c.count with
        | some n => rest.take (size * n)
        | none => rest
      let change (d : Char) : Char :=
        if c.changes.contains "ucase" then d.toUpper
        else if c.changes.contains "lcase" then d.toLower
        else d
      let full := part.length / size
      let partly := if part.length % size = 0 then 0 else 1
      let filled := if c.changes.contains "sync" then (size - part.length % size) % size else 0
      let out := part.map change ++ List.replicate filled '\x00'
      let records := numeral full ++ "+" ++ numeral partly
      let written := if 0 < filled then numeral (full + partly) ++ "+0" else records
      let report : StateM Process Unit := do
        if c.status != "none" then
          putError (records ++ " records in\n" ++ written ++ " records out\n")
          if c.status != "noxfer" then
            putError (numeral out.length ++ " bytes copied, 0.0001 s, " ++
              numeral (out.length / 100) ++ " MB/s\n")
      match c.target with
      | none =>
        let outcome ← emit call out 0
        report
        pure outcome
      | some path =>
        let start := size * c.sought
        let before : List Char ←
          if start = 0 && !c.changes.contains "notrunc" then pure []
          else do pure ((← readFile path).toOption.getD [])
        let front := before.take start ++ List.replicate (start - before.length) '\x00'
        let back := if c.changes.contains "notrunc" then before.drop (start + out.length) else []
        match ← writeFile path false (front ++ out ++ back) with
        | .ok () =>
          report
          exited 0
        | .error e => fail call ("failed to open " ++ quote path ++ ": " ++ e.wording) 1

/-! ### Parts -/

def partName (digits : Bool) : Nat → Nat → List Char
  | 0, _ => []
  | width + 1, n =>
    let base := if digits then 10 else 26
    let first := if digits then '0' else 'a'
    partName digits width (n / base) ++ [Char.ofNat (first.toNat + n % base)]

/-- A list in parts of so many. Each step takes at least one. -/
def portions {α : Type} (n : Nat) : Nat → List α → List (List α)
  | 0, _ => []
  | fuel + 1, l => if l.isEmpty then [] else l.take n :: portions n fuel (l.drop n)

def split : Utility := fun _ call =>
  withFlags call
    [{ letter := 'l', word := "lines", taking := .argument },
     { letter := 'b', word := "bytes", taking := .argument },
     { letter := 'n', word := "number", taking := .argument },
     { letter := 'a', word := "suffix-length", taking := .argument },
     { letter := 'd', word := "numeric-suffixes" },
     { letter := 'X', word := "additional-suffix", taking := .argument, isShort := false }] true 1
    (fun given => do
      let path := given.others.headD "-"
      let front := given.others.getD 1 "x"
      let number (c : Char) (otherwise : Nat) : Except String Nat :=
        match given.value? c with
        | none => .ok otherwise
        | some s =>
          match size? s with
          | some (n + 1) => .ok (n + 1)
          | _ => .error s
      match number 'l' 1000, number 'b' 0, number 'n' 0 with
      | .error s, _, _ => fail call ("invalid number of lines: " ++ quote s) 1
      | _, .error s, _ => fail call ("invalid number of bytes: " ++ quote s) 1
      | _, _, .error s => fail call ("invalid number of chunks: " ++ quote s) 1
      | .ok perFile, .ok octets, .ok chunks =>
        match ← readFile path with
        | .error e =>
          fail call ("cannot open " ++ quoteName path ++ " for reading: " ++ e.wording) 1
        | .ok text =>
          let all := rows text
          let share := text.length / max chunks 1
          let parts : List (List Char) :=
            if 0 < chunks then
              (List.range chunks).map (fun i =>
                let rest := text.drop (i * share)
                if i + 1 = chunks then rest else rest.take share)
            else if 0 < octets then portions octets (text.length + 1) text
            else (portions perFile (all.length + 1) all).map List.flatten
          let width := ((given.value? 'a').bind nat?).getD 2
          let write (code : Nat) (part : List Char × Nat) : StateM Process Nat := do
            let name := front ++ String.ofList (partName (given.has 'd') width part.2) ++
              (given.value? 'X').getD ""
            match ← writeFile name false part.1 with
            | .ok () => pure code
            | .error e =>
              complain call (showName name ++ ": " ++ e.wording)
              pure 1
          exited (← parts.zipIdx.foldlM write 0))

end BuoyGateway.Shell.Utility
