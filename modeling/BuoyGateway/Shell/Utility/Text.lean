import BuoyGateway.Shell.Utility.Basic

/-!
# Utilities for texts as they are

They copy texts, take parts of them, count what is in them, and lay them out in another way. Most of
them write all that they have to write when they end, after what they have to complain about.
-/

namespace BuoyGateway.Shell.Utility

/-! ### Copies -/

def visible (tabs : Bool) (c : Char) : List Char :=
  if c = '\n' || (c = '\t' && !tabs) then [c]
  else
    let n := c.toNat
    let (mark, n) : List Char × Nat := if 128 ≤ n then (['M', '-'], n - 128) else ([], n)
    if n < 32 then mark ++ ['^', Char.ofNat (n + 64)]
    else if n = 127 then mark ++ ['^', '?']
    else mark ++ [Char.ofNat n]

structure Copying where
  numbers : Bool
  fullOnly : Bool
  squeezed : Bool
  ends : Bool
  tabs : Bool
  marks : Bool

/-- Where a copy has come to: the number of the next line, whether a line has begun, and whether the
line before was blank. -/
structure Copied where
  number : Nat := 1
  midLine : Bool := false
  blankBefore : Bool := false

def Copying.row (c : Copying) (s : Copied) (row : List Char) : List Char × Copied :=
  let blank := row = ['\n'] && !s.midLine
  if c.squeezed && blank && s.blankBefore then ([], s)
  else
    let numbered := !s.midLine && (if c.fullOnly then !blank else c.numbers)
    let lead := if numbered then (Decimal.digits s.number).leftpad 6 ' ' ++ ['\t'] else []
    let shown := if c.marks || c.tabs then row.flatMap (fun d =>
        if c.marks || d = '\t' then
          if d = '\t' && !c.tabs then [d] else visible c.tabs d
        else [d])
      else row
    let ended := row.getLast? = some '\n'
    let shown := if c.ends && ended then shown.dropLast ++ ['$', '\n'] else shown
    (lead ++ shown,
      { number := if numbered then s.number + 1 else s.number
        midLine := !ended
        blankBefore := blank })

def cat : Utility := fun _ call =>
  withFlags call
    [{ letter := 'n', word := "number" }, { letter := 'b', word := "number-nonblank" },
     { letter := 's', word := "squeeze-blank" }, { letter := 'E', word := "show-ends" },
     { letter := 'T', word := "show-tabs" }, { letter := 'v', word := "show-nonprinting" },
     { letter := 'A', word := "show-all" }, { letter := 'e' }, { letter := 't' },
     { letter := 'u' }] true 1
    (fun given => do
      let c : Copying :=
        { numbers := given.has 'n', fullOnly := given.has 'b', squeezed := given.has 's'
          ends := given.hasAny "EAe", tabs := given.hasAny "TAt", marks := given.hasAny "vAet" }
      let isPlain := given.flags.all (fun f => f.1 = 'u')
      let step (acc : Nat × Copied) (path : String) : StateM Process (Nat × Copied) := do
        match ← readFile path with
        | .error e =>
          fileFault call path e
          pure (1, acc.2)
        | .ok text =>
          let (text, s) :=
            if isPlain then (text, acc.2)
            else
              let (parts, s) := (rows text).foldl
                (fun (acc : List (List Char) × Copied) row =>
                  let (part, s) := c.row acc.2 row
                  (part :: acc.1, s))
                ([], acc.2)
              (parts.reverse.flatten, s)
          match (← get).write 1 text with
          | .ok p =>
            set p
            pure (acc.1, s)
          | .error e =>
            complain call ("write error: " ++ e.wording)
            pure (1, s)
      let (code, _) ← (orInput given.others).foldlM step (0, {})
      exited code)

def tac : Utility := fun _ call =>
  withFlags call [] true 1 (fun given =>
    let fault (path : String) (e : SystemError) : StateM Process Unit :=
      if e == .isDirectory then complain call (showName path ++ ": read error: Invalid argument")
      else complain call ("failed to open " ++ quoteName path ++ " for reading: " ++ e.wording)
    eachFile call (orInput given.others) fault ()
      (fun text _ => ((rows text).reverse.flatten, ())) (fun _ => []))

def rev : Utility := fun _ call =>
  withFlags call [] true 1 (fun given => do
    let (texts, isWhole) ← readAll (orInput given.others) (fun path e =>
      complain call ("cannot open " ++ path ++ ": " ++ e.wording))
    let turned (row : List Char) : List Char :=
      (trimmed row).reverse ++ (if row.getLast? = some '\n' then ['\n'] else [])
    emit call (texts.flatMap (fun t => (rows t.2).flatMap turned)) (if isWhole then 0 else 1))

def tee : Utility := fun _ call =>
  withFlags call
    [{ letter := 'a', word := "append" }, { letter := 'i', word := "ignore-interrupts" },
     { letter := 'p' }] true 1
    (fun given => do
      let text := (← readFile "-").toOption.getD []
      put text
      let step (code : Nat) (path : String) : StateM Process Nat := do
        match ← writeFile path (given.has 'a') text with
        | .ok () => pure code
        | .error e =>
          fileFault call path e
          pure 1
      exited (← given.others.foldlM step 0))

/-! ### Parts -/

/-- A wanted amount: of lines or octets, from which end, and how much. -/
structure Amount where
  octets : Bool := false
  reversed : Bool := false
  count : Nat := 10

/-- The amount of an option's argument; `sign` says that it is the other way round. -/
def Amount.of? (octets : Bool) (sign : Char) (s : String) : Except String Amount :=
  let (reversed, digits) := match s.toList with
    | c :: rest =>
      if c = sign then (true, rest)
      else if c = '-' || c = '+' then (false, rest)
      else (false, s.toList)
    | [] => (false, [])
  match size? (String.ofList digits) with
  | some count => .ok { octets, reversed, count }
  | none =>
    let shown := if s.startsWith "+" then s else String.ofList digits
    .error ("invalid number of " ++ (if octets then "bytes" else "lines") ++ ": " ++ quote shown)

def Amount.front (a : Amount) (rows : List Char → List (List Char)) (s : List Char) : List Char :=
  if a.octets then s.take (if a.reversed then s.length - a.count else a.count)
  else
    let all := rows s
    (all.take (if a.reversed then all.length - a.count else a.count)).flatten

def Amount.back (a : Amount) (rows : List Char → List (List Char)) (s : List Char) : List Char :=
  if a.octets then s.drop (if a.reversed then a.count - 1 else s.length - a.count)
  else
    let all := rows s
    (all.drop (if a.reversed then a.count - 1 else all.length - a.count)).flatten

/-- The options of parts of files: a first argument that is a dash and a number stands for lines,
and letters may follow it. -/
def frontArguments (arguments : List String) : Except String (List String) :=
  match arguments with
  | a :: rest =>
    match a.toList with
    | '-' :: c :: s =>
      if !c.isDigit then .ok arguments
      else
        let digits := (c :: s).takeWhile Char.isDigit
        let letters := (c :: s).drop digits.length
        match letters.find? (fun c => !"ckmblqvz".contains c) with
        | some c => .error ("invalid trailing option -- " ++ String.singleton c)
        | none =>
          let unit := match (letters.filter (fun c => "bkm".contains c)).getLast? with
            | some 'm' => "M"
            | some 'k' => "K"
            | some _ => "b"
            | none => ""
          let isOctets := letters.any (fun c => "cbkm".contains c)
          let others := (letters.filter (fun c => "qvz".contains c)).map
            (fun c => "-" ++ String.singleton c)
          .ok ((if isOctets then "-c" else "-n") :: (String.ofList digits ++ unit) ::
            (others ++ rest))
    | _ => .ok arguments
  | [] => .ok []

/-- The options of parts of files, where a sign and a number alone may stand for lines or octets. -/
def backArguments (arguments : List String) : Except String (List String) :=
  match arguments with
  | a :: rest =>
    match a.toList with
    | sign :: c :: s =>
      let digits := (c :: s).takeWhile Char.isDigit
      let unit := (c :: s).drop digits.length
      let letter := if unit = ['c'] then "-c" else "-n"
      let amount := (if sign = '+' then "+" else "") ++ String.ofList digits
      let isShort := (sign = '-' || sign = '+') && c.isDigit && rest.length ≤ 1
      if isShort && (unit.isEmpty || unit = ['c'] || unit = ['l']) then
        .ok (letter :: amount :: rest)
      else .ok arguments
    | _ => .ok arguments
  | [] => .ok []

def parts (sign : Char) (atEnd : Bool) : Utility := fun _ call =>
  let flags : List Flag :=
    [{ letter := 'n', word := "lines", taking := .argument },
     { letter := 'c', word := "bytes", taking := .argument },
     { letter := 'q', word := "quiet" }, { letter := 'v', word := "verbose" },
     { letter := 'z', word := "zero-terminated" },
     { letter := 'S', word := "silent", isShort := false }] ++ plainFlags "0123456789" ++
      (if atEnd then [{ letter := 'f', word := "follow" }, { letter := 'F' }] else [])
  match if atEnd then backArguments call.arguments else frontArguments call.arguments with
  | .error e => misuse call e 1
  | .ok arguments => withFlags { call with arguments } flags true 1
    (fun given => do
      let wanted (acc : Amount) (f : Char × String) :
          Except (StateM Process Outcome) Amount :=
        if f.1.isDigit then .error
          (if atEnd then fail call ("option used in invalid context -- " ++ String.singleton f.1) 1
           else misuse call ("invalid trailing option -- " ++ String.singleton f.1) 1)
        else if f.1 = 'n' || f.1 = 'c' then
          (Amount.of? (f.1 = 'c') sign f.2).mapError (fun e => fail call e 1)
        else .ok acc
      match given.flags.foldlM wanted {} with
      | .error fault => fault
      | .ok amount =>
        let paths := orInput given.others
        let named := !given.hasAny "qS" && (given.has 'v' || 1 < paths.length)
        let rows := rowsBy (if given.has 'z' then '\x00' else '\n')
        let part := if atEnd then amount.back rows else amount.front rows
        let step (acc : Nat × Bool) (path : String) : StateM Process (Nat × Bool) := do
          let shown := if path = "-" then "standard input" else path
          let header := (if acc.2 then "\n" else "") ++ "==> " ++ shown ++ " <==\n"
          let lead := if named then header.toList else []
          match ← readFile path with
          | .error .isDirectory =>
            put lead
            complain call ("error reading " ++ quoteName path ++ ": Is a directory")
            pure (1, true)
          | .error e =>
            complain call ("cannot open " ++ quoteName path ++ " for reading: " ++ e.wording)
            pure (1, acc.2)
          | .ok text =>
            let taken := part text
            if path = "-" && !atEnd then
              modify (fun p => match p.stream? 0 with
                | some (_, .file ..) => p.giveBack 0 (text.drop taken.length)
                | _ => p)
            match (← get).write 1 (lead ++ taken) with
            | .ok p =>
              set p
              pure (acc.1, true)
            | .error e =>
              complain call ("error writing 'standard output': " ++ e.wording)
              pure (1, true)
        exited (← paths.foldlM step (0, false)).1)

def head : Utility := parts '-' false

def tail : Utility := parts '+' true

/-! ### Counts -/

/-- The most columns that a line takes: a return and a form feed start again at the first column, a
tab goes to the next one that eight divides, and what cannot be shown takes none. -/
def columns (s : List Char) : Nat :=
  let step (acc : Nat × Nat) (c : Char) : Nat × Nat :=
    if c = '\n' || c = '\r' || c = '\x0c' then (max acc.1 acc.2, 0)
    else if c = '\t' then (acc.1, acc.2 + (8 - acc.2 % 8))
    else if ' ' ≤ c && c < '\x7f' then (acc.1, acc.2 + 1)
    else acc
  let (most, last) := s.foldl step (0, 0)
  max most last

def shownWords (s : List Char) : List (List Char) :=
  let isBlank (c : Char) : Bool := c = ' ' || ('\t' ≤ c && c ≤ '\r')
  (partsBy isBlank s).filter (fun w => w.any (fun c => ' ' < c && c < '\x7f'))

/-- How many there are of what can be counted: lines, words, characters, octets, and columns of the
longest line. -/
def counted (s : List Char) : List Nat :=
  [s.count '\n', (shownWords s).length, s.length, s.length, columns s]

def wc : Utility := fun _ call =>
  withFlags call
    [{ letter := 'l', word := "lines" }, { letter := 'w', word := "words" },
     { letter := 'm', word := "chars" }, { letter := 'c', word := "bytes" },
     { letter := 'L', word := "max-line-length" }] true 1
    (fun given => do
      let wanted : List Bool :=
        if given.flags.isEmpty then [true, true, false, true, false]
        else ['l', 'w', 'm', 'c', 'L'].map given.has
      let paths := orInput given.others
      let p ← get
      let sizeOf (path : String) : Option Nat :=
        let node := if path = "-" then
            match p.stream? 0 with
            | some (_, .file loc ..) => p.disk.find? loc
            | _ => none
          else if ((p.locate path).toOption.bind Device.at?).isSome then none
          else p.node? path
        match node.map Node.content with
        | some (.file octets _) => some octets.length
        | _ => none
      let isThere (path : String) : Bool := path = "-" || (p.node? path).isSome
      let there := paths.filter isThere
      let width :=
        if paths.length = 1 && (wanted.filter (fun b => b)).length = 1 then 1
        else
          let total := (there.filterMap sizeOf).foldl (· + ·) 0
          let least := if there.all (fun path => (sizeOf path).isSome) then 1 else 7
          max least (Decimal.digits total).length
      let row (counts : List Nat) (name : String) : List Char :=
        let shown := (counts.zip wanted).filterMap (fun e =>
          if e.2 then some ((Decimal.digits e.1).leftpad width ' ') else none)
        List.intercalate [' '] shown ++ (if name = "" then [] else ' ' :: name.toList) ++ ['\n']
      let step (acc : Nat × List Nat) (path : String) : StateM Process (Nat × List Nat) := do
        let name := if given.others.isEmpty then "" else path
        match ← readFile path with
        | .error e =>
          fileFault call path e
          if e == .isDirectory then put (row [0, 0, 0, 0, 0] name)
          pure (1, acc.2)
        | .ok text =>
          let counts := counted text
          put (row counts name)
          let sum := (acc.2.zip counts).map (fun e => e.1 + e.2)
          pure (acc.1, sum.set 4 (max (acc.2.getD 4 0) (counts.getD 4 0)))
      let (code, total) ← paths.foldlM step (0, [0, 0, 0, 0, 0])
      emit call (if 1 < paths.length then row total "total" else []) code)

/-! ### Layouts -/

def nl : Utility := fun _ call =>
  withFlags call
    ([{ letter := 'p', word := "no-renumber" }] ++ fullFlags "bdfhilnsvw") true 1
    (fun given => do
      let number (c : Char) (otherwise : Nat) : Nat :=
        ((given.value? c).bind nat?).getD otherwise
      let width := number 'w' 6
      let style := (given.value? 'b').getD "t"
      let separator := ((given.value? 's').getD "\t").toList
      let shown (n : Nat) : List Char := match (given.value? 'n').getD "rn" with
        | "ln" => (Decimal.digits n).rightpad width ' '
        | "rz" => (Decimal.digits n).leftpad width '0'
        | _ => (Decimal.digits n).leftpad width ' '
      let step (acc : Nat × List (List Char)) (l : List Char) : Nat × List (List Char) :=
        if style = "a" || (style = "t" && !l.isEmpty) then
          (acc.1 + number 'i' 1, (shown acc.1 ++ separator ++ l ++ ['\n']) :: acc.2)
        else (acc.1, (List.replicate (width + separator.length) ' ' ++ l ++ ['\n']) :: acc.2)
      eachFile call (orInput given.others) (fileFault call) (number 'v' 1)
        (fun text n =>
          let (n, out) := (lines text).foldl step (n, [])
          (out.reverse.flatten, n))
        (fun _ => []))

/-- A line in pieces of at most so many characters, cut behind blanks if that is asked for. -/
def folded (width : Nat) (atBlanks : Bool) : Nat → List Char → List (List Char)
  | 0, s => [s]
  | fuel + 1, s =>
    if s.length ≤ width then [s]
    else
      let piece := s.take width
      let tail := piece.reverse.takeWhile (fun c => c != ' ' && c != '\t')
      let piece :=
        if atBlanks && tail.length < width then piece.take (width - tail.length) else piece
      piece :: folded width atBlanks fuel (s.drop piece.length)

def fold : Utility := fun _ call =>
  withFlags call
    [{ letter := 'w', word := "width", taking := .argument },
     { letter := 's', word := "spaces" }, { letter := 'b', word := "bytes" }] true 1
    (fun given => do
      let w := (given.value? 'w').getD "80"
      match nat? w with
      | none | some 0 => fail call ("invalid number of columns: " ++ quote w) 1
      | some width =>
        let cut (row : List Char) : List Char :=
          let l := trimmed row
          List.intercalate ['\n'] (folded width (given.has 's') (l.length + 1) l) ++
            (if row.getLast? = some '\n' then ['\n'] else [])
        mapFiles call (orInput given.others) (fun text => (rows text).flatMap cut))

def expand : Utility := fun _ call =>
  withFlags call
    [{ letter := 't', word := "tabs", taking := .argument },
     { letter := 'i', word := "initial" }] true 1
    (fun given => do
      let width := max 1 (((given.value? 't').bind nat?).getD 8)
      let step (acc : Nat × List (List Char)) (c : Char) : Nat × List (List Char) :=
        if c = '\n' then (0, [c] :: acc.2)
        else if c = '\t' then
          let n := width - acc.1 % width
          (acc.1 + n, List.replicate n ' ' :: acc.2)
        else (acc.1 + 1, [c] :: acc.2)
      let out (s : List Char) : List Char := (s.foldl step (0, [])).2.reverse.flatten
      mapFiles call (orInput given.others) out)

def separatorsOf : List Char → List (List Char)
  | [] => []
  | '\\' :: c :: rest =>
    (match c with
      | 'n' => ['\n']
      | 't' => ['\t']
      | '0' => []
      | c => [c]) :: separatorsOf rest
  | c :: rest => [c] :: separatorsOf rest

def joinedBy (separators : List (List Char)) : Nat → List (List Char) → List Char
  | _, [] => []
  | _, [s] => s
  | k, s :: rest =>
    s ++ separators.getD (k % max 1 separators.length) [] ++ joinedBy separators (k + 1) rest

def paste : Utility := fun _ call =>
  withFlags call
    [{ letter := 'd', word := "delimiters", taking := .argument },
     { letter := 's', word := "serial" }] true 1
    (fun given => do
      let separators := separatorsOf ((given.value? 'd').getD "\t").toList
      let paths := orInput given.others
      if given.has 's' then
        mapFiles call paths (fun text => joinedBy separators 0 (lines text) ++ ['\n'])
      else
        let step (acc : Except (String × SystemError) (List (List (List Char)))) (path : String) :
            StateM Process (Except (String × SystemError) (List (List (List Char)))) := do
          match acc with
          | .error e => pure (.error e)
          | .ok columns =>
            match ← readFile path with
            | .ok text => pure (.ok (lines text :: columns))
            | .error e => pure (.error (path, e))
        match ← paths.eraseDups.foldlM step (.ok []) with
        | .error (path, e) =>
          fileFault call path e
          exited 1
        | .ok columns =>
          let texts := paths.eraseDups.zip columns.reverse
          let inputs := paths.count "-"
          let column (e : String × Nat) : List (List Char) :=
            let all := (texts.lookup e.1).getD []
            if e.1 != "-" then all
            else
              let place := (paths.take e.2).count "-"
              (all.zipIdx.filter (fun l => l.2 % inputs = place)).map Prod.fst
          let columns := paths.zipIdx.map column
          let height := (columns.map List.length).foldl max 0
          let row (k : Nat) : List Char :=
            joinedBy separators 0 (columns.map (fun c => c.getD k []))
          emit call (unlines ((List.range height).map row)) 0)

end BuoyGateway.Shell.Utility
