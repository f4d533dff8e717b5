import BuoyGateway.Shell.Utility.Basic

/-!
# Octets as numbers and signs

Octets are shown in blocks, one block in a line behind its offset: as numbers of several sizes, as
characters, or in several ways below each other.
-/

namespace BuoyGateway.Shell.Utility

inductive OctetKind
  | character
  | name
  | signed
  | unsigned
  | octal
  | hex
  deriving DecidableEq, Repr

/-- How octets are shown: in which way, how many make one number, and whether they stand behind the
line as they are. -/
structure OctetFormat where
  kind : OctetKind
  size : Nat := 1
  quoted : Bool := false
  deriving Repr

namespace OctetFormat

def width (f : OctetFormat) : Nat :=
  let pick (a b c d : Nat) : Nat :=
    if f.size = 1 then a else if f.size = 2 then b else if f.size = 4 then c else d
  match f.kind with
  | .character | .name => 3
  | .signed => pick 4 6 11 20
  | .unsigned => pick 3 5 10 20
  | .octal => pick 3 6 11 22
  | .hex => pick 2 4 8 16

def names : List String :=
  ["nul", "soh", "stx", "etx", "eot", "enq", "ack", "bel", "bs", "ht", "nl", "vt", "ff", "cr", "so",
   "si", "dle", "dc1", "dc2", "dc3", "dc4", "nak", "syn", "etb", "can", "em", "sub", "esc", "fs",
   "gs", "rs", "us", "sp"]

def text (f : OctetFormat) (octets : List Nat) : List Char :=
  let n := octets.foldr (fun d n => d + 256 * n) 0
  let bits := 8 * f.size
  match f.kind with
  | .octal => (Nat.toDigits 8 n).leftpad f.width '0'
  | .hex => (Nat.toDigits 16 n).leftpad f.width '0'
  | .unsigned => Decimal.digits n
  | .signed =>
    let half := Nat.pow 2 (bits - 1)
    Decimal.signed (if n < half then (n : Int) else (n : Int) - 2 * half)
  | .name =>
    let n := n % 128
    if n = 127 then "del".toList
    else match names[n]? with
      | some name => name.toList
      | none => [Char.ofNat n]
  | .character =>
    match n with
    | 0 => ['\\', '0']
    | 7 => ['\\', 'a']
    | 8 => ['\\', 'b']
    | 9 => ['\\', 't']
    | 10 => ['\\', 'n']
    | 11 => ['\\', 'v']
    | 12 => ['\\', 'f']
    | 13 => ['\\', 'r']
    | n =>
      if 32 ≤ n && n < 127 then [Char.ofNat n] else (Nat.toDigits 8 n).leftpad 3 '0'

def sizeOf? (s : List Char) : Option (Option Nat × List Char) :=
  match s with
  | 'C' :: rest => some (some 1, rest)
  | 'S' :: rest => some (some 2, rest)
  | 'I' :: rest => some (some 4, rest)
  | 'L' :: rest => some (some 8, rest)
  | s =>
    let digits := s.takeWhile Char.isDigit
    if digits.isEmpty then some (none, s)
    else
      let n := Decimal.ofDigits digits
      if n ∈ [1, 2, 4, 8] then some (some n, s.drop digits.length) else none

/-- The ways that a text asks for. Each step takes at least one character. -/
def readAll (whole : String) : Nat → List Char → Except String (List OctetFormat)
  | 0, _ => .ok []
  | _, [] => .ok []
  | fuel + 1, c :: s => do
    let sized (kind : OctetKind) : Except String (OctetFormat × List Char) :=
      match sizeOf? s with
      | none => .error ("invalid type string " ++ quote whole)
      | some (size, rest) => .ok ({ kind, size := size.getD 4 }, rest)
    let (f, rest) ← match c with
      | 'a' => pure ({ kind := .name }, s)
      | 'c' => pure ({ kind := .character }, s)
      | 'd' => sized .signed
      | 'o' => sized .octal
      | 'u' => sized .unsigned
      | 'x' => sized .hex
      | c => throw ("invalid character " ++ quote (String.singleton c) ++ " in type string " ++
          quote whole)
    let (f, rest) := match rest with
      | 'z' :: rest => ({ f with quoted := true }, rest)
      | rest => (f, rest)
    let more ← readAll whole fuel rest
    pure (f :: more)

end OctetFormat

/-- Numbers of one way to show a block, with blanks between them so that all ways are as wide as the
widest one. -/
def octetRow (width perBlock : Nat) (f : OctetFormat) (octets : List Nat) : List Char :=
  let fields := perBlock / f.size
  let pad := width - f.width * fields
  let groups := (List.range ((octets.length + f.size - 1) / f.size)).map (fun k =>
    (octets.drop (f.size * k)).take f.size)
  let cell (e : List Nat × Nat) : List Char :=
    let left (k : Nat) : Nat := pad * (fields - k) / fields
    (f.text e.1).leftpad (left e.2 - left (e.2 + 1) + f.width) ' '
  let shown := (groups.zipIdx.map cell).flatten
  if f.quoted then
    let missing := List.replicate ((fields - groups.length) * f.width +
      pad * (fields - groups.length) / fields) ' '
    shown ++ missing ++ "  >".toList ++
      octets.map (fun n => if 32 ≤ n && n < 127 then Char.ofNat n else '.') ++ ['<']
  else shown

def octetLines (formats : List OctetFormat) (perBlock start : Nat)
    (address : Nat → List Char) (all : Bool) (octets : List Nat) : List Char :=
  let width := (formats.map (fun f => (f.width + 1) * (perBlock / f.size))).foldl max 0
  let indent := (address 0).map (fun _ => ' ')
  let blocks := (List.range ((octets.length + perBlock - 1) / perBlock)).map (fun k =>
    (octets.drop (perBlock * k)).take perBlock)
  let step (acc : List (List Char) × Option (List Nat) × Bool) (e : List Nat × Nat) :
      List (List Char) × Option (List Nat) × Bool :=
    let (done, before, starred) := acc
    if !all && before = some e.1 && e.1.length = perBlock && e.2 + 1 != blocks.length then
      (if starred then done else ['*', '\n'] :: done, before, true)
    else
      let rows := formats.zipIdx.map (fun f =>
        (if f.2 = 0 then address (start + perBlock * e.2) else indent) ++
          octetRow width perBlock f.1 e.1 ++ ['\n'])
      (rows.flatten :: done, some e.1, false)
  let (done, _, _) := blocks.zipIdx.foldl step ([], none, false)
  done.reverse.flatten ++
    (if indent.isEmpty then [] else address (start + octets.length) ++ ['\n'])

def dumpFlags : List Flag :=
  [{ letter := 'A', word := "address-radix", taking := .argument },
   { letter := 'j', word := "skip-bytes", taking := .argument },
   { letter := 'N', word := "read-bytes", taking := .argument },
   { letter := 't', word := "format", taking := .argument },
   { letter := 'v', word := "output-duplicates" },
   { letter := 'w', word := "width", taking := .attached }] ++ plainFlags "abcdfihlosx"

/-- The way to show octets that a letter of its own stands for. -/
def dumpFormat? : Char → Option OctetFormat
  | 'a' => some { kind := .name }
  | 'b' => some { kind := .octal }
  | 'c' => some { kind := .character }
  | 'd' => some { kind := .unsigned, size := 2 }
  | 'h' | 'x' => some { kind := .hex, size := 2 }
  | 'i' => some { kind := .signed, size := 4 }
  | 'l' => some { kind := .signed, size := 8 }
  | 'o' => some { kind := .octal, size := 2 }
  | 's' => some { kind := .signed, size := 2 }
  | _ => none

def od : Utility := fun _ call =>
  withFlags call dumpFlags true 1 (fun given => do
    let formats : Except String (List OctetFormat) := given.flags.foldl
      (fun (acc : Except String (List OctetFormat)) f => do
        let formats ← acc
        match f.1, dumpFormat? f.1 with
        | 't', _ =>
          let more ← OctetFormat.readAll f.2 (f.2.length + 1) f.2.toList
          pure (formats ++ more)
        | _, some format => pure (formats ++ [format])
        | _, none => pure formats)
      (.ok [])
    let number (c : Char) (name : String) : Except String (Option Nat) :=
      match given.value? c with
      | none => .ok none
      | some s =>
        match size? s with
        | some n => .ok (some n)
        | none => .error ("invalid -" ++ name ++ " argument " ++ quote s)
    let address : Except String (Nat → List Char) :=
      match (given.value? 'A').getD "o" with
      | "o" => .ok (fun n => (Nat.toDigits 8 n).leftpad 7 '0')
      | "d" => .ok (fun n => (Decimal.digits n).leftpad 7 '0')
      | "x" => .ok (fun n => (Nat.toDigits 16 n).leftpad 6 '0')
      | "n" => .ok (fun _ => [])
      | s => .error ("invalid output address radix " ++ quote s ++
          "; it must be one character from [doxn]")
    let settings :
        Except String (List OctetFormat × Option Nat × Option Nat × (Nat → List Char)) := do
      let address ← address
      let skipped ← number 'j' "j"
      let most ← number 'N' "N"
      pure (← formats, skipped, most, address)
    match settings with
    | .error e => fail call e 1
    | .ok (formats, skipped, most, address) =>
      let formats := if formats.isEmpty then [{ kind := .octal, size := 2 }] else formats
      let (texts, isWhole) ← readAll (orInput given.others) (fileFault call)
      let all := (texts.flatMap Prod.snd).map Char.toNat
      let start := skipped.getD 0
      let p ← get
      let isNothing := texts.isEmpty && !isWhole &&
        given.others.all (fun path => (p.node? path).isNone)
      let widest := (formats.map OctetFormat.size).foldl max 1
      let perBlock := match given.value? 'w' with
        | none => 16
        | some s => ((nat? s).getD 32) / widest * widest
      if isNothing then exited 1
      else if all.length < start then fail call "cannot skip past end of combined input" 1
      else
        let octets := all.drop start
        let octets := match most with
          | some n => octets.take n
          | none => octets
        emit call (octetLines formats (max 1 perBlock) start address (given.has 'v') octets)
          (if isWhole then 0 else 1))

end BuoyGateway.Shell.Utility
