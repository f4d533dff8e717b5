import BuoyGateway.Shell.Utility.Machine
import BuoyGateway.Shell.Utility.Naming
import BuoyGateway.Shell.Utility.Order
import BuoyGateway.Shell.Utility.Rights

/-!
# Listing files

What is said about files and directories: their names in order, and what is known about them in the
form that is asked for.
-/

namespace BuoyGateway.Shell.Utility

/-! ### What is known -/

def sizeAt (p : Process) (loc : Location) (node : Node) : Nat :=
  match p.linkAt? loc, node.content with
  | some target, _ => (Process.ofPath target).length
  | none, .directory => 4096
  | none, .file octets _ => octets.length

/-- How many blocks of 1024 octets are taken up by what is at a location. -/
def blocksAt (p : Process) (loc : Location) (node : Node) : Nat :=
  if (p.linkAt? loc).isSome then 0 else 4 * ((sizeAt p loc node + 4095) / 4096)

def namesFor (p : Process) (loc : Location) (node : Node) : Nat :=
  if node.isDirectory then
    2 + ((p.disk.names loc).filter (fun name => p.isDirectoryAt (name :: loc))).length
  else 1

def kindAt (p : Process) (loc : Location) (node : Node) : String :=
  match kindLetter p loc node with
  | 'l' => "symbolic link"
  | 'd' => "directory"
  | 'c' => "character special file"
  | _ => if sizeAt p loc node = 0 then "regular empty file" else "regular file"

/-- The bits of the rights and of the kind of what is at a location. -/
def fullMode (p : Process) (loc : Location) (node : Node) : Nat :=
  let kind := match kindLetter p loc node with
    | 'l' => 0o120000
    | 'd' => 0o040000
    | 'c' => 0o020000
    | _ => 0o100000
  kind ||| p.modeAt loc node

def fullLetters (p : Process) (loc : Location) (node : Node) : String :=
  String.singleton (kindLetter p loc node) ++ modeLetters (p.modeAt loc node)

def serialOf (loc : Location) : Nat :=
  1000 + (loc.flatMap String.toList).foldl (fun n c => (31 * n + c.toNat) % 1000003) loc.length

def momentText (format : String) (t : Time.Instant) : String :=
  String.ofList (dateText t (4 * format.length + 100) format.toList)

/-! ### Names in order -/

structure Entry where
  name : String
  loc : Location
  node : Node

def listFlags : List Flag :=
  [{ letter := 'a', word := "all" }, { letter := 'A', word := "almost-all" },
   { letter := 'B', word := "ignore-backups" }, { letter := 'C' }, { letter := '1' },
   { letter := 'c' }, { letter := 'd', word := "directory" }, { letter := 'f' },
   { letter := 'F', word := "classify", taking := .nothing }, { letter := 'g' },
   { letter := 'G', word := "no-group" }, { letter := 'h', word := "human-readable" },
   { letter := 'H', word := "dereference-command-line" }, { letter := 'i', word := "inode" },
   { letter := 'I', word := "ignore", taking := .argument }, { letter := 'k' }, { letter := 'l' },
   { letter := 'L', word := "dereference" }, { letter := 'm' },
   { letter := 'n', word := "numeric-uid-gid" }, { letter := 'N', word := "literal" },
   { letter := 'o' }, { letter := 'p' }, { letter := 'q', word := "hide-control-chars" },
   { letter := 'Q', word := "quote-name" }, { letter := 'r', word := "reverse" },
   { letter := 'R', word := "recursive" }, { letter := 's', word := "size" }, { letter := 'S' },
   { letter := 't' }, { letter := 'T', taking := .argument }, { letter := 'u' }, { letter := 'U' },
   { letter := 'v' }, { letter := 'w', word := "width", taking := .argument }, { letter := 'x' },
   { letter := 'X' }, { letter := 'b', word := "escape" },
   { letter := 'D', word := "color", taking := .attached, isShort := false },
   { letter := 'E', word := "group-directories-first", isShort := false },
   { letter := 'J', word := "full-time", isShort := false },
   { letter := 'K', word := "sort", taking := .argument, isShort := false },
   { letter := 'M', word := "time-style", taking := .argument, isShort := false },
   { letter := 'O', word := "show-control-chars", isShort := false }]

inductive Sorting
  | name
  | time
  | size
  | ending
  | version
  | nothing
  deriving DecidableEq, Repr

def sortingOf (given : Given) : Sorting :=
  match given.last? "tSXUfvK" with
  | some 't' => .time
  | some 'S' => .size
  | some 'X' => .ending
  | some 'v' => .version
  | some 'U' | some 'f' => .nothing
  | some 'K' =>
    match (given.value? 'K').getD "" with
    | "size" => .size
    | "time" => .time
    | "extension" => .ending
    | "version" => .version
    | "none" => .nothing
    | _ => .name
  | _ => .name

def endingOf (name : String) : List Char :=
  let after := name.toList.reverse.takeWhile (fun c => c != '.')
  if after.length = name.length then [] else ('.' :: after.reverse)

def arranged (p : Process) (given : Given) (entries : List Entry) : List Entry :=
  let byName (a b : Entry) : Ordering := compareTexts a.name.toList b.name.toList
  let later (a b : Entry) : Ordering :=
    (compare b.node.modified.seconds a.node.modified.seconds).then
      (compare b.node.modified.nanos a.node.modified.nanos)
  let order (a b : Entry) : Ordering := match sortingOf given with
    | .name => byName a b
    | .time => (later a b).then (byName a b)
    | .size => (compare (sizeAt p b.loc b.node) (sizeAt p a.loc a.node)).then (byName a b)
    | .ending => (compareTexts (endingOf a.name) (endingOf b.name)).then (byName a b)
    | .version =>
      (compareNames a.name.toList b.name.toList).then (byName a b)
    | .nothing => .eq
  let sorted := entries.mergeSort (fun a b =>
    (if given.has 'r' && sortingOf given != .nothing then order b a else order a b) != .gt)
  if given.has 'E' then
    sorted.filter (fun e => p.isDirectoryAt e.loc) ++
      sorted.filter (fun e => !p.isDirectoryAt e.loc)
  else sorted

def shownName (p : Process) (given : Given) (e : Entry) : String :=
  let name :=
    if given.has 'Q' then "\"" ++ e.name ++ "\""
    else if given.has 'b' then
      String.ofList (e.name.toList.flatMap (fun c =>
        if c = ' ' || c = '\\' then ['\\', c] else if isVisible c then [c] else hiddenSign c))
    else if given.has 'q' then String.ofList (e.name.toList.map (fun c =>
      if isVisible c then c else '?'))
    else e.name
  let letter := kindLetter p e.loc e.node
  let mark :=
    if given.has 'F' then
      if letter = 'd' then "/" else if letter = 'l' then "@"
      else if letter = '-' && p.modeAt e.loc e.node &&& 0o111 != 0 then "*" else ""
    else if given.has 'p' && letter = 'd' then "/"
    else ""
  match p.linkAt? e.loc with
  | some target =>
    if given.hasAny "lngoJ" then name ++ " -> " ++ Process.ofPath target else name ++ mark
  | none => name ++ mark

def shortSize (n : Nat) : String :=
  if n < 1024 then numeral n
  else
    let rec scale (unit : Nat) : List Char → String
      | [] => numeral n
      | c :: rest =>
        let tenths := (10 * n + unit - 1) / unit
        if tenths < 100 then numeral (tenths / 10) ++ "." ++ numeral (tenths % 10) ++
          String.singleton c
        else
          let whole := (n + unit - 1) / unit
          if whole < 1024 || rest.isEmpty then numeral whole ++ String.singleton c
          else scale (1024 * unit) rest
    scale 1024 ['K', 'M', 'G', 'T']

def entryLines (p : Process) (given : Given) (entries : List Entry) : List String :=
  let isLong := given.hasAny "lngoJ"
  let now := p.instant
  let when' (e : Entry) : String :=
    let t := e.node.modified
    if given.has 'J' then momentText "%Y-%m-%d %H:%M:%S.%N %z" t
    else if now.seconds - 15778476 < t.seconds && t.seconds ≤ now.seconds then
      momentText "%b %e %H:%M" t
    else momentText "%b %e  %Y" t
  let size (e : Entry) : String :=
    let n := sizeAt p e.loc e.node
    if given.has 'h' then shortSize n else numeral n
  let blocks (e : Entry) : String :=
    let n := blocksAt p e.loc e.node
    if given.has 'h' then shortSize (1024 * n) else numeral n
  let user := if given.has 'n' then "0" else "root"
  let fields (e : Entry) : List (Bool × String) :=
    (if given.has 'i' then [(true, numeral (serialOf e.loc))] else []) ++
      (if given.has 's' then [(true, blocks e)] else []) ++
      (if !isLong then []
        else [(true, fullLetters p e.loc e.node), (true, numeral (namesFor p e.loc e.node))] ++
          (if given.has 'g' then [] else [(false, user)]) ++
          (if given.hasAny "oG" then [] else [(false, user)]) ++
          [(true, size e), (true, when' e)])
  let rows := entries.map fields
  let count := (rows.head?.map List.length).getD 0
  let widths := (List.range count).map (fun k =>
    (rows.map (fun r => (r.getD k (false, "")).2.length)).foldl max 0)
  (entries.zip rows).map (fun e =>
    let cells := (e.2.zip widths).map (fun c =>
      let text := c.1.2.toList
      String.ofList (if c.1.1 then text.leftpad c.2 ' ' else text.rightpad c.2 ' ') ++ " ")
    String.join cells ++ shownName p given e.1)

def entriesText (p : Process) (given : Given) (entries : List Entry) : String :=
  let ls := entryLines p given entries
  if given.has 'm' && !given.hasAny "lngoJ" then
    if ls.isEmpty then "" else String.intercalate ", " ls ++ "\n"
  else String.join (ls.map (fun l => l ++ "\n"))

def entriesIn (p : Process) (given : Given) (loc : Location) : List Entry :=
  let wanted (name : String) : Bool :=
    let isHidden := name.startsWith "."
    (given.hasAny "aAf" || !isHidden) && !(given.has 'B' && name.endsWith "~") &&
      !(given.values 'I').any (fun pattern => fits pattern name)
  let entry (name : String) (loc : Location) : Option Entry :=
    (p.disk.find? loc).map (fun node => ⟨name, loc, node⟩)
  let dots := if given.hasAny "af" then [entry "." loc, entry ".." loc.tail].flatMap Option.toList
    else []
  let others := (p.namesAt loc).filter wanted
  arranged p given (dots ++ others.filterMap (fun name => entry name (Process.pathOf name :: loc)))

/-- The text of a directory and, if that is asked for, of those below it, each after a blank
line. -/
def directoryTexts (p : Process) (given : Given) (titled : Bool) :
    Nat → String → Location → List String
  | 0, _, _ => []
  | depth + 1, path, loc =>
    let entries := entriesIn p given loc
    let title := if titled then path ++ ":\n" else ""
    let total :=
      if given.hasAny "lngoJs" then
        let n := (entries.map (fun e => blocksAt p e.loc e.node)).foldl (· + ·) 0
        "total " ++ (if given.has 'h' then shortSize (1024 * n) else numeral n) ++ "\n"
      else ""
    let below :=
      if given.has 'R' then
        (entries.filter (fun e => p.isDirectoryAt e.loc && e.name != "." && e.name != "..")).flatMap
          (fun e => directoryTexts p given titled depth (inDirectory path e.name) e.loc)
      else []
    (title ++ total ++ entriesText p given entries) :: below

def ls : Utility := fun _ call =>
  withFlags call listFlags true 2 (fun given => do
    let paths := if given.others.isEmpty then ["."] else given.others
    let isLong := given.hasAny "lngoJ"
    let step (acc : Nat × List Entry) (path : String) : StateM Process (Nat × List Entry) := do
      let p ← get
      let followed := given.hasAny "HL" || !(isLong || given.hasAny "dF")
      let found := match p.locateNode path followed with
        | .error .notFound => p.locateNode path false
        | found => found
      match found with
      | .ok (loc, node) => pure (acc.1, ⟨path, loc, node⟩ :: acc.2)
      | .error e =>
        complain call ("cannot access " ++ quoteName path ++ ": " ++ e.wording)
        pure (2, acc.2)
    let (code, found) ← paths.foldlM step (0, [])
    let p ← get
    let all := arranged p given found.reverse
    let isListed (e : Entry) : Bool := p.isDirectoryAt e.loc && !given.has 'd'
    let files := all.filter (fun e => !isListed e)
    let titled := 1 < paths.length || given.has 'R'
    let texts := (if files.isEmpty then [] else [entriesText p given files]) ++
      (all.filter isListed).flatMap (fun e =>
        directoryTexts p given titled depthLimit e.name e.loc)
    emit call (String.intercalate "\n" texts).toList code)

/-! ### Single facts -/

def factText (p : Process) (path : String) (loc : Location) (node : Node) (c : Char) : String :=
  let time (format : String) : String := momentText format node.modified
  match c with
  | 'n' => path
  | 'Q' =>
    match p.linkAt? loc with
    | some target => path ++ " -> " ++ Process.ofPath target
    | none => path
  | 'N' =>
    match p.linkAt? loc with
    | some target => quoteName path ++ " -> " ++ quoteName (Process.ofPath target)
    | none => quoteName path
  | 's' => numeral (sizeAt p loc node)
  | 'F' => kindAt p loc node
  | 'a' => modeDigits (p.modeAt loc node)
  | 'A' => fullLetters p loc node
  | 'f' => String.ofList (Nat.toDigits 16 (fullMode p loc node))
  | 'h' => numeral (namesFor p loc node)
  | 'i' => numeral (serialOf loc)
  | 'U' | 'G' => "root"
  | 'u' | 'g' | 't' | 'T' | 'W' => "0"
  | 'b' => numeral (2 * blocksAt p loc node)
  | 'B' => "512"
  | 'o' => "4096"
  | 'd' => "1"
  | 'D' => "1"
  | 'm' => "/"
  | 'w' => "-"
  | 'x' | 'y' | 'z' => time "%Y-%m-%d %H:%M:%S.%N %z"
  | 'X' | 'Y' | 'Z' => time "%s"
  | _ => "?"

/-- What a format with facts says. Each step takes at least one character. -/
def factsText (fact : Char → String) (escapes : Bool) : Nat → List Char → List Char
  | 0, _ | _, [] => []
  | fuel + 1, '%' :: s =>
    let flags := s.takeWhile (fun c => "-0+ #'".contains c)
    let s := s.drop flags.length
    let width := s.takeWhile Char.isDigit
    match s.drop width.length with
    | [] => ['%']
    | '%' :: rest => '%' :: factsText fact escapes fuel rest
    | c :: rest =>
      let text := (fact c).toList
      let n := Decimal.ofDigits width
      let text :=
        if flags.contains '-' then text.rightpad n ' '
        else if flags.contains '0' then text.leftpad n '0'
        else text.leftpad n ' '
      text ++ factsText fact escapes fuel rest
  | fuel + 1, '\\' :: s =>
    if !escapes then '\\' :: factsText fact escapes fuel s
    else
      match ({} : Format.Escapes).read s with
      | some (c, rest) => c :: factsText fact escapes fuel rest
      | none => '\\' :: factsText fact escapes fuel s
  | fuel + 1, c :: s => c :: factsText fact escapes fuel s

def stat : Utility := fun _ call =>
  withFlags call
    [{ letter := 'c', word := "format", taking := .argument },
     { letter := 'P', word := "printf", taking := .argument, isShort := false },
     { letter := 'L', word := "dereference" }, { letter := 't', word := "terse" },
     { letter := 'f', word := "file-system" }] true 1
    (fun given => do
      let terse := "%n %s %b %f %u %g %D %i %h %t %T %X %Y %Z %W %o"
      let full := "  File: %Q\n  Size: %-10s\tBlocks: %-10b IO Block: %-6o %F\n" ++
        "Device: 0,1\tInode: %-11i Links: %h\n" ++
        "Access: (%04a/%10A)  Uid: (    0/    root)   Gid: (    0/    root)\n" ++
        "Access: %x\nModify: %y\nChange: %z\n Birth: %w"
      let (format, escapes, stop) : String × Bool × String :=
        match given.last? "cP" with
        | some 'c' => ((given.value? 'c').getD "", false, "\n")
        | some _ => ((given.value? 'P').getD "", true, "")
        | none => (if given.has 't' then terse else full, false, "\n")
      let step (code : Nat) (path : String) : StateM Process Nat := do
        let p ← get
        match p.locateNode path (given.has 'L') with
        | .error e =>
          complain call ("cannot statx " ++ quoteName path ++ ": " ++ e.wording)
          pure 1
        | .ok (loc, node) =>
          put (factsText (factText p path loc node) escapes (format.length + 1) format.toList ++
            stop.toList)
          pure code
      if given.others.isEmpty then misuse call "missing operand" 1
      else exited (← given.others.foldlM step 0))

end BuoyGateway.Shell.Utility
