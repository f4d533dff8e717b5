import BuoyGateway.Shell.Regex
import BuoyGateway.Shell.Utility.Listing

/-!
# Finding files

Trees are looked through for files that meet a criterion. Criteria are joined by operators; some of
them do something with what they are asked about, and are met if that succeeds.
-/

namespace BuoyGateway.Shell.Utility

/-- How a number compares with a wanted one: below it, at it or above it. -/
structure Bound where
  sign : Char
  value : Nat
  deriving Repr

def Bound.admits (b : Bound) (n : Nat) : Bool :=
  match b.sign with
  | '+' => decide (b.value < n)
  | '-' => decide (n < b.value)
  | _ => n == b.value

def Bound.of? (s : String) : Option (Bound × String) :=
  let (sign, rest) := match s.toList with
    | '+' :: rest => ('+', rest)
    | '-' :: rest => ('-', rest)
    | rest => ('=', rest)
  let digits := rest.takeWhile Char.isDigit
  if digits.isEmpty then none
  else some (⟨sign, Decimal.ofDigits digits⟩, String.ofList (rest.drop digits.length))

inductive Criterion
  | always (met : Bool)
  | name (pattern : String) (anyCase : Bool)
  | path (pattern : String) (anyCase : Bool)
  | regex (r : Regex) (anyCase : Bool)
  | kind (letters : List Char)
  | size (bound : Bound) (unit : Nat)
  | empty
  | newer (time : Time.Instant)
  | age (bound : Bound) (unit : Nat)
  | mode (sign : Char) (mode : Nat)
  | links (bound : Bound)
  | same (loc : Location)
  | isThere (bit : Nat)
  | prune
  | quit
  | print (stop : Char)
  | format (text : String)
  | list
  | delete
  | exec (words : List String) (inPlace : Bool)
  | execAll (words : List String)
  | negated (c : Criterion)
  | both (a b : Criterion)
  | either (a b : Criterion)
  | after (a b : Criterion)
  deriving Repr

/-- The criterion does something by itself that is a reason not to write paths. -/
def Criterion.acts : Criterion → Bool
  | .print _ | .format _ | .list | .delete | .exec .. | .execAll _ | .quit => true
  | .negated c => c.acts
  | .both a b | .either a b | .after a b => a.acts || b.acts
  | _ => false

def Criterion.deletes : Criterion → Bool
  | .delete => true
  | .negated c => c.deletes
  | .both a b | .either a b | .after a b => a.deletes || b.deletes
  | _ => false

structure Search where
  least : Nat := 0
  most : Nat := depthLimit
  deepFirst : Bool := false
  followed : Bool := false

def backQuoted (s : String) : String := "\x60" ++ s ++ "'"

/-! ### Reading criteria -/

/-- The words of a program to run, whether many paths are wanted at once, and what follows. -/
def execWords (name : String) : List String → List String →
    Except String (List String × Bool × List String)
  | _, [] => .error ("missing argument to " ++ backQuoted name)
  | words, ";" :: rest =>
    if words.isEmpty then .error ("missing argument to " ++ backQuoted name)
    else .ok (words.reverse, false, rest)
  | words, w :: rest =>
    if w = "+" && words.head? = some "\x7b\x7d" then .ok (words.reverse, true, rest)
    else execWords name (w :: words) rest

def sizeUnit? : String → Option Nat
  | "" | "b" => some 512
  | "c" => some 1
  | "w" => some 2
  | "k" => some 1024
  | "M" => some 1048576
  | "G" => some 1073741824
  | _ => none

/-- What was read of a criterion: it itself, the words that are left, and what it says about the
whole search. -/
abbrev Reading := Criterion × List String × Search

def criterionWith (p : Process) (search : Search) (name value : String) :
    Except String (Option (Criterion × Search)) :=
  let found (c : Criterion) : Except String (Option (Criterion × Search)) := .ok (some (c, search))
  let number (f : Nat → Search) : Except String (Option (Criterion × Search)) :=
    match nat? value with
    | some n => .ok (some (.always true, f n))
    | none =>
      .error ("Expected a positive decimal integer argument to " ++ name ++ ", but got " ++
        quote value)
  let bound (f : Bound → Criterion) : Except String (Option (Criterion × Search)) :=
    match Bound.of? value with
    | some (b, "") => found (f b)
    | _ => .error ("invalid argument " ++ backQuoted value ++ " to " ++ backQuoted name)
  match name with
  | "-name" => found (.name value false)
  | "-iname" => found (.name value true)
  | "-path" | "-wholename" => found (.path value false)
  | "-ipath" => found (.path value true)
  | "-regex" | "-iregex" =>
    match Regex.read false true value.toList with
    | .ok r => found (.regex (r.within false true) (name = "-iregex"))
    | .error e => .error ("failed to compile regular expression " ++ quote value ++ ": " ++ e)
  | "-regextype" => found (.always true)
  | "-type" | "-xtype" =>
    let letters := value.toList.filter (fun c => c != ',')
    match letters.find? (fun c => !"bcdpflsD".contains c) with
    | some c => .error ("Unknown argument to " ++ name ++ ": " ++ String.singleton c)
    | none => found (.kind letters)
  | "-size" =>
    match Bound.of? value with
    | some (b, unit) =>
      match sizeUnit? unit with
      | some unit => found (.size b unit)
      | none => .error ("invalid -size type " ++ backQuoted unit)
    | none => .error ("Invalid argument " ++ backQuoted value ++ " to -size")
  | "-newer" | "-anewer" | "-cnewer" =>
    match p.locateNode value true with
    | .ok (_, node) => found (.newer node.modified)
    | .error e => .error (quote value ++ ": " ++ e.wording)
  | "-mtime" | "-atime" | "-ctime" => bound (fun b => .age b 86400)
  | "-mmin" | "-amin" | "-cmin" => bound (fun b => .age b 60)
  | "-links" => bound .links
  | "-perm" =>
    let (sign, text) := match value.toList with
      | '-' :: rest => ('-', String.ofList rest)
      | '/' :: rest => ('/', String.ofList rest)
      | _ => ('=', value)
    match ModeChange.ofText? text with
    | some changes => found (.mode sign (ModeChange.applyAll 0 false changes 0))
    | none => .error ("invalid mode " ++ quote value)
  | "-samefile" =>
    match p.locate value with
    | .ok loc => found (.same loc)
    | .error e => .error (quote value ++ ": " ++ e.wording)
  | "-user" | "-group" =>
    if value = "root" || value = "0" then found (.always true)
    else .error ((if name = "-user" then quote value ++ " is not the name of a known user"
      else quote value ++ " is not the name of an existing group"))
  | "-uid" | "-gid" => bound (fun b => .always (b.admits 0))
  | "-printf" => found (.format value)
  | "-maxdepth" => number (fun n => { search with most := n })
  | "-mindepth" => number (fun n => { search with least := n })
  | _ => .ok none

def criterionAlone (search : Search) (name : String) : Option (Criterion × Search) :=
  match name with
  | "-true" | "-noleaf" | "-mount" | "-xdev" | "-warn" | "-nowarn" => some (.always true, search)
  | "-false" | "-nouser" | "-nogroup" => some (.always false, search)
  | "-empty" => some (.empty, search)
  | "-readable" | "-writable" => some (.isThere 0, search)
  | "-executable" => some (.isThere 0o111, search)
  | "-print" => some (.print '\n', search)
  | "-print0" => some (.print '\x00', search)
  | "-ls" => some (.list, search)
  | "-prune" => some (.prune, search)
  | "-quit" => some (.quit, search)
  | "-delete" => some (.delete, { search with deepFirst := true })
  | "-depth" | "-d" => some (.always true, { search with deepFirst := true })
  | "-follow" => some (.always true, { search with followed := true })
  | _ => none

def unclosedText : String :=
  "invalid expression; I was expecting to find a ')' somewhere but did not see one."

mutual

def listed (p : Process) : Nat → Search → List String → Except String Reading
  | 0, _, _ => .error "expression too long"
  | fuel + 1, search, words => do
    let (first, rest, search) ← alternated p fuel search words
    match rest with
    | "," :: rest =>
      let (second, rest, search) ← listed p fuel search rest
      pure (.after first second, rest, search)
    | rest => pure (first, rest, search)

def alternated (p : Process) : Nat → Search → List String → Except String Reading
  | 0, _, _ => .error "expression too long"
  | fuel + 1, search, words => do
    let (first, rest, search) ← joined p fuel search words
    match rest with
    | op :: rest' =>
      if op = "-o" || op = "-or" then
        let (second, rest, search) ← alternated p fuel search rest'
        pure (.either first second, rest, search)
      else pure (first, rest, search)
    | [] => pure (first, rest, search)

def joined (p : Process) : Nat → Search → List String → Except String Reading
  | 0, _, _ => .error "expression too long"
  | fuel + 1, search, words => do
    let (first, rest, search) ← single p fuel search words
    match rest with
    | [] | ")" :: _ | "-o" :: _ | "-or" :: _ | "," :: _ => pure (first, rest, search)
    | op :: rest' =>
      let rest := if op = "-a" || op = "-and" then rest' else rest
      let (second, rest, search) ← joined p fuel search rest
      pure (.both first second, rest, search)

def single (p : Process) : Nat → Search → List String → Except String Reading
  | 0, _, _ => .error "expression too long"
  | fuel + 1, search, words => do
    match words with
    | [] => throw "invalid expression; expected an expression here"
    | "(" :: ")" :: _ =>
      throw ("invalid expression; empty parentheses are not allowed.")
    | "(" :: rest =>
      let (c, rest, search) ← listed p fuel search rest
      match rest with
      | ")" :: rest => pure (c, rest, search)
      | _ => throw unclosedText
    | ")" :: _ => throw "you have too many ')'"
    | "!" :: rest | "-not" :: rest =>
      let (c, rest, search) ← single p fuel search rest
      pure (.negated c, rest, search)
    | name :: rest =>
      if !name.startsWith "-" then
        throw ("paths must precede expression: " ++ backQuoted name)
      else if name = "-exec" || name = "-execdir" || name = "-ok" then
        let (program, many, rest) ← execWords name [] rest
        pure (if many then .execAll program.dropLast
          else .exec program (name = "-execdir"), rest, search)
      else
        match criterionAlone search name with
        | some (c, search) => pure (c, rest, search)
        | none =>
          match ← criterionWith p search name (rest.headD "") with
          | some (c, search) => pure (c, rest.drop 1, search)
          | none => throw ("unknown predicate " ++ backQuoted name)

end

def takesArgument (name : String) : Bool :=
  ["-name", "-iname", "-path", "-wholename", "-ipath", "-regex", "-iregex", "-type", "-xtype",
   "-size", "-newer", "-mtime", "-mmin", "-atime", "-ctime", "-amin", "-cmin", "-links", "-perm",
   "-samefile", "-user", "-group", "-uid", "-gid", "-printf", "-maxdepth", "-mindepth",
   "-regextype"].contains name

/-! ### Looking -/

structure Sighting where
  path : String
  loc : Location
  node : Node
  depth : Nat
  start : String

structure Progress where
  code : Nat := 0
  pruned : Bool := false
  ended : Bool := false
  /-- Programs that are to be run in the end, with the paths so far, the latest first. -/
  batches : List (List String × List String) := []

def sightingFact (p : Process) (s : Sighting) (c : Char) : String :=
  match c with
  | 'p' => s.path
  | 'f' => lastName s.path
  | 'h' => if s.path.contains '/' then parentPath s.path else "."
  | 'P' =>
    let rest := s.path.toList.drop s.start.length
    String.ofList (rest.dropWhile (fun c => c = '/'))
  | 'H' => s.start
  | 'd' => numeral s.depth
  | 's' => numeral (sizeAt p s.loc s.node)
  | 'y' =>
    let letter := kindLetter p s.loc s.node
    if letter = '-' then "f" else String.singleton letter
  | 'm' => modeDigits (p.modeAt s.loc s.node)
  | 'M' => fullLetters p s.loc s.node
  | 'u' | 'g' => "root"
  | 'U' | 'G' => "0"
  | 'n' => numeral (namesFor p s.loc s.node)
  | 'i' => numeral (serialOf s.loc)
  | 'k' => numeral (blocksAt p s.loc s.node)
  | 'b' => numeral (2 * blocksAt p s.loc s.node)
  | 'l' => ((p.linkAt? s.loc).map Process.ofPath).getD ""
  | 't' => momentText "%a %b %e %H:%M:%S.%N0 %Y" s.node.modified
  | _ => String.ofList ['%', c]

/-- A format in which a letter may follow `T` to say which part of the time is meant. -/
def sightingText (p : Process) (s : Sighting) (format : String) : List Char :=
  let rec times : List Char → List Char
    | '%' :: 'T' :: '@' :: rest =>
      (momentText "%s.%N0" s.node.modified).toList ++ times rest
    | '%' :: 'T' :: c :: rest =>
      (momentText (String.ofList ['%', c]) s.node.modified).toList ++ times rest
    | c :: rest => c :: times rest
    | [] => []
  let chars := times format.toList
  factsText (sightingFact p s) true (chars.length + 1) chars

def withPath (path : String) : List Char → List Char
  | '\x7b' :: '\x7d' :: rest => path.toList ++ withPath path rest
  | c :: rest => c :: withPath path rest
  | [] => []

def met (call : Call) (run : Runner) (s : Sighting) : Criterion → Progress →
    StateM Process (Bool × Progress)
  | .always b, g => pure (b, g)
  | .name pattern anyCase, g =>
    let name := lastName s.path
    pure (if anyCase then fits pattern.toLower name.toLower else fits pattern name, g)
  | .path pattern anyCase, g =>
    pure (if anyCase then fits pattern.toLower s.path.toLower else fits pattern s.path, g)
  | .regex r anyCase, g => pure (r.isIn anyCase s.path.toList, g)
  | .kind letters, g => do
    let letter := kindLetter (← get) s.loc s.node
    pure (letters.contains (if letter = '-' then 'f' else letter), g)
  | .size b unit, g => do
    let n := sizeAt (← get) s.loc s.node
    pure (b.admits ((n + unit - 1) / unit), g)
  | .empty, g => do
    let p ← get
    pure (if p.isDirectoryAt s.loc then (p.disk.names s.loc).isEmpty
      else (p.linkAt? s.loc).isNone && sizeAt p s.loc s.node = 0, g)
  | .newer t, g =>
    let m := s.node.modified
    pure (decide (t.seconds < m.seconds ∨ (t.seconds = m.seconds ∧ t.nanos < m.nanos)), g)
  | .age b unit, g => do
    let now := (← get).instant
    pure (b.admits ((now.seconds - s.node.modified.seconds).toNat / unit), g)
  | .mode sign wanted, g => do
    let mode := (← get).modeAt s.loc s.node
    pure (match sign with
      | '-' => mode &&& wanted == wanted
      | '/' => wanted == 0 || mode &&& wanted != 0
      | _ => mode == wanted, g)
  | .links b, g => do pure (b.admits (namesFor (← get) s.loc s.node), g)
  | .same loc, g => pure (decide (loc = s.loc), g)
  | .isThere bit, g => do
    pure (bit = 0 || (← get).modeAt s.loc s.node &&& bit != 0, g)
  | .prune, g => pure (true, { g with pruned := true })
  | .quit, g => pure (true, { g with ended := true })
  | .print stop, g => do
    put (s.path.toList ++ [stop])
    pure (true, g)
  | .format text, g => do
    put (sightingText (← get) s text)
    pure (true, g)
  | .list, g => do
    let p ← get
    let line := numeral (serialOf s.loc) ++ " " ++ numeral (blocksAt p s.loc s.node) ++ " " ++
      fullLetters p s.loc s.node ++ " " ++ numeral (namesFor p s.loc s.node) ++ " root root " ++
      numeral (sizeAt p s.loc s.node) ++ " " ++ momentText "%b %e %H:%M" s.node.modified ++ " " ++
      s.path ++ "\n"
    put line.toList
    pure (true, g)
  | .delete, g => do
    let p ← get
    if s.path = "." then pure (true, g)
    else
      let result := if p.isDirectoryAt s.loc then p.removeDirectoryAt s.loc
        else p.removeFileAt s.loc
      match result with
      | .ok p =>
        set p
        pure (true, g)
      | .error e =>
        complain call ("cannot delete " ++ quote s.path ++ ": " ++ e.wording)
        pure (false, { g with code := 1 })
  | .exec words inPlace, g => do
    let path := if inPlace then "./" ++ lastName s.path else s.path
    match words.map (fun w => String.ofList (withPath path w.toList)) with
    | [] => pure (false, g)
    | name :: arguments =>
      let p ← get
      let back := p.disk.current
      if inPlace && s.depth != 0 then
        set { p with disk := { p.disk with current := s.loc.tail } }
      let outcome ← run name arguments
      modify (fun p => { p with disk := { p.disk with current := back } })
      match outcome with
      | .refused e =>
        complain call (quote name ++ ": " ++ e.wording)
        pure (false, g)
      | .exited 0 => pure (true, g)
      | _ => pure (false, g)
  | .execAll words, g =>
    let before := (g.batches.lookup words).getD []
    let others := g.batches.filter (fun b => b.1 != words)
    pure (true, { g with batches := others ++ [(words, s.path :: before)] })
  | .negated c, g => do
    let (b, g) ← met call run s c g
    pure (!b, g)
  | .both a b, g => do
    match ← met call run s a g with
    | (true, g) => if g.ended then pure (true, g) else met call run s b g
    | (false, g) => pure (false, g)
  | .either a b, g => do
    match ← met call run s a g with
    | (true, g) => pure (true, g)
    | (false, g) => if g.ended then pure (false, g) else met call run s b g
  | .after a b, g => do
    let (_, g) ← met call run s a g
    if g.ended then pure (true, g) else met call run s b g

def lookThrough (call : Call) (run : Runner) (search : Search) (c : Criterion) :
    Nat → Sighting → Progress → StateM Process Progress
  | 0, _, g => pure g
  | fuel + 1, s, g => do
    if g.ended then pure g
    else
      let judge (g : Progress) : StateM Process Progress := do
        if search.least ≤ s.depth && !g.ended then
          pure (← met call run s c g).2
        else pure g
      let inside (g : Progress) : StateM Process Progress := do
        let p ← get
        if search.most ≤ s.depth || !p.isDirectoryAt s.loc then pure g
        else
          let step (g : Progress) (name : String) : StateM Process Progress := do
            let loc := Process.pathOf name :: s.loc
            match (← get).disk.find? loc with
            | none => pure g
            | some node =>
              lookThrough call run search c fuel
                ⟨inDirectory s.path name, loc, node, s.depth + 1, s.start⟩ g
          (p.namesAt s.loc).foldlM step g
      if search.deepFirst then judge (← inside g)
      else
        let g ← judge { g with pruned := false }
        if g.pruned || g.ended then pure { g with pruned := false } else inside g

def runBatches (call : Call) (run : Runner) (g : Progress) : StateM Process Nat := do
  let step (code : Nat) (batch : List String × List String) : StateM Process Nat := do
    match batch.1 ++ batch.2.reverse with
    | [] => pure code
    | name :: arguments =>
      match ← run name arguments with
      | .exited 0 => pure code
      | .refused e =>
        complain call (quote name ++ ": " ++ e.wording)
        pure 1
      | _ => pure 1
  g.batches.foldlM step g.code

def find : Utility := fun run call => do
  let isExpression (a : String) : Bool :=
    (a.startsWith "-" && a != "-") || a = "(" || a = "!"
  let options := call.arguments.takeWhile (fun a => a = "-H" || a = "-L" || a = "-P")
  let arguments := call.arguments.drop options.length
  let starts := arguments.takeWhile (fun a => !isExpression a)
  let words := arguments.drop starts.length
  let p ← get
  let start : Search := { followed := options.getLast? = some "-L" }
  let read : Except String Reading :=
    if words.isEmpty then .ok (.always true, [], start)
    else listed p (4 * words.length + 8) start words
  let lacking := match words.getLast? with
    | some w => if takesArgument w && !takesArgument ((words.dropLast.getLast?).getD "") then
        some w else none
    | none => none
  match lacking, read with
  | some w, _ => fail call ("missing argument to " ++ backQuoted w) 1
  | none, .error e => fail call e 1
  | none, .ok (_, ")" :: _, _) => fail call "you have too many ')'" 1
  | none, .ok (c, _, search) =>
    let c := if c.acts then c else .both c (.print '\n')
    let search := if c.deletes then { search with deepFirst := true } else search
    let step (g : Progress) (path : String) : StateM Process Progress := do
      let p ← get
      match p.locateNode path (search.followed || options.getLast? = some "-H") with
      | .error e =>
        complain call (quote path ++ ": " ++ e.wording)
        pure { g with code := 1 }
      | .ok (loc, node) =>
        lookThrough call run search c (depthLimit + 1) ⟨path, loc, node, 0, path⟩ g
    let g ← (if starts.isEmpty then ["."] else starts).foldlM step {}
    exited (← runBatches call run g)

end BuoyGateway.Shell.Utility
