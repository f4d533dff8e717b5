import BuoyGateway.Shell.Format
import BuoyGateway.Shell.Regex

/-!
# Editing commands

The commands of an editor that works on one line after the other. A command may say by addresses
which lines it is for. Commands in braces are for lines to which the braces apply.
-/

namespace BuoyGateway.Shell.Utility

/-- An expression of an editing command; without one of its own, the one that was used last is
meant. -/
structure Sought where
  expression : Option Regex
  anyCase : Bool := false

inductive LineAddress
  | line (n : Nat)
  | last
  | sought (s : Sought)
  | every (first step : Nat)
  | further (n : Nat)
  | multiple (n : Nat)

inductive CaseChange
  | upper
  | lower
  | upperNext
  | lowerNext
  | none
  deriving DecidableEq, Repr

inductive ReplacementPart
  | char (c : Char)
  | group (n : Nat)
  | case (change : CaseChange)
  deriving DecidableEq, Repr

inductive EditAction
  | block
  | blockEnd
  | nothing
  | append (text : List Char)
  | insert (text : List Char)
  | change (text : List Char)
  | branch (label : String)
  | branchIf (replaced : Bool) (label : String)
  | delete
  | deleteFirst
  | printName
  | get
  | getMore
  | keep
  | keepMore
  | list (width : Option Nat)
  | next
  | nextMore
  | print
  | printFirst
  | quit (code : Nat) (printing : Bool)
  | readFile (path : String)
  | readLine (path : String)
  | substitute (what : Sought) (parts : List ReplacementPart) (global printing : Bool)
      (count : Nat) (path : Option String)
  | writeFile (path : String)
  | writeFirst (path : String)
  | exchange
  | translate (pairs : List (Char × Char))
  | number
  | clear

structure EditCommand where
  first : Option LineAddress := none
  second : Option LineAddress := none
  negated : Bool := false
  action : EditAction
  label : Option String := none

/-- What is wrong with editing commands, and how many characters were left when that was found. -/
structure EditFault where
  text : String
  left : Nat := 0
  isGeneral : Bool := false

abbrev EditM := Except EditFault

structure EditStyle where
  extended : Bool := false

namespace EditCommand

def wrong {α : Type} (text : String) (rest : List Char) : EditM α :=
  .error { text, left := rest.length }

def afterBlanks (s : List Char) : List Char :=
  s.dropWhile (fun c => c.isWhitespace && c != '\n')

def number (s : List Char) : Nat × List Char :=
  let digits := s.takeWhile Char.isDigit
  (Decimal.ofDigits digits, s.drop digits.length)

def digitOf (c : Char) : Nat :=
  if c.isDigit then c.toNat - 48 else c.toLower.toNat - 87

/-- A character that a number stands for: as it is, or kept from being a sign of an expression. -/
def numbered (inExpression : Bool) (n : Nat) : List Char :=
  let c := Char.ofNat (n % 256)
  if inExpression && "$*.[\\]^".contains c then ['\\', c] else [c]

/-- A text in which letters and numbers after backslashes stand for characters. Each step takes at
least one character. -/
def unescaped (inExpression : Bool) : Nat → List Char → List Char
  | 0, s => s
  | _, [] => []
  | fuel + 1, '\\' :: c :: s =>
    let go (s : List Char) : List Char := unescaped inExpression fuel s
    let digits (base most : Nat) (isDigit : Char → Bool) : List Char :=
      let run := (s.take most).takeWhile isDigit
      if run.isEmpty then '\\' :: c :: go s
      else
        numbered inExpression (run.foldl (fun n d => base * n + digitOf d) 0) ++
          go (s.drop run.length)
    match c with
    | 'a' => '\x07' :: go s
    | 'f' => '\x0c' :: go s
    | 't' => '\t' :: go s
    | 'v' => '\x0b' :: go s
    | 'r' => '\r' :: go s
    | 'd' => digits 10 3 Char.isDigit
    | 'o' => digits 8 3 (fun c => '0' ≤ c && c ≤ '7')
    | 'x' => digits 16 2 (fun c => c.isDigit || ('a' ≤ c.toLower && c.toLower ≤ 'f'))
    | 'c' =>
      match s with
      | d :: s => Char.ofNat (d.toUpper.toNat ^^^ 64) :: go s
      | [] => ['\\', 'c']
    | c => '\\' :: c :: go s
  | fuel + 1, c :: s => c :: unescaped inExpression fuel s

/-- A text up to a delimiter that stands neither behind a backslash nor between brackets, and what
follows the delimiter. Each step takes at least one character. -/
def delimited (mark : Char) (isExpression : Bool) : Nat → List Char → Option (List Char × List Char)
  | 0, _ => none
  | _, [] => none
  | fuel + 1, c :: s =>
    let more (front : List Char) (s : List Char) : Option (List Char × List Char) :=
      (delimited mark isExpression fuel s).map (fun r => (front ++ r.1, r.2))
    if c = mark then some ([], s)
    else if c = '\\' then
      match s with
      | [] => none
      | d :: s =>
        if d = mark then more (if !isExpression && d = '&' then ['\\', d] else [d]) s
        else if d = 'n' && isExpression then more ['\n'] s
        else if d = '\n' && isExpression then more ['\n'] s
        else more ['\\', d] s
    else if c = '\n' && isExpression then none
    else if c = '[' && isExpression then
      let (lead, s) := match s with
        | '^' :: ']' :: s => (['[', '^', ']'], s)
        | '^' :: s => (['[', '^'], s)
        | ']' :: s => (['[', ']'], s)
        | s => (['['], s)
      let rec inside : Nat → List Char → Option (List Char × List Char)
        | 0, _ => none
        | _, [] => none
        | _ + 1, ']' :: s => some ([']'], s)
        | fuel + 1, '[' :: kind :: s =>
          if kind = ':' || kind = '.' || kind = '=' then
            let name := s.takeWhile (fun d => d != kind)
            let rest := s.drop name.length
            match rest with
            | _ :: ']' :: s =>
              (inside fuel s).map (fun r => ('[' :: kind :: name ++ [kind, ']'] ++ r.1, r.2))
            | _ => (inside fuel (kind :: s)).map (fun r => ('[' :: r.1, r.2))
          else (inside fuel (kind :: s)).map (fun r => ('[' :: r.1, r.2))
        | fuel + 1, '\\' :: 'n' :: s => (inside fuel s).map (fun r => ('\n' :: r.1, r.2))
        | fuel + 1, c :: s =>
          if c = '\n' then none else (inside fuel s).map (fun r => (c :: r.1, r.2))
      match inside (s.length + 1) s with
      | some (body, rest) => more (lead ++ body) rest
      | none => none
    else more [c] s

def sought (style : EditStyle) (text : List Char) (anyCase multiline : Bool) (rest : List Char) :
    EditM Sought :=
  if text.isEmpty then .ok { expression := none, anyCase }
  else
    match Regex.read style.extended true (unescaped true (text.length + 1) text) with
    | .ok r => .ok { expression := some (if multiline then r.byLines else r), anyCase }
    | .error e => .error { text := e, left := rest.length, isGeneral := e == Regex.loneClass }

/-- What follows an address that is an expression: letters that say how it is meant. -/
def soughtFlags : List Char → Bool × Bool × List Char
  | c :: s =>
    if c = 'I' then
      let (_, m, rest) := soughtFlags s
      (true, m, rest)
    else if c = 'M' then
      let (i, _, rest) := soughtFlags s
      (i, true, rest)
    else if c.isWhitespace && c != '\n' then soughtFlags s
    else (false, false, c :: s)
  | [] => (false, false, [])

def address (style : EditStyle) (isSecond : Bool) (s : List Char) :
    EditM (Option LineAddress × List Char) := do
  let expression (mark : Char) (s : List Char) : EditM (Option LineAddress × List Char) :=
    match delimited mark true (s.length + 1) s with
    | none => wrong "unterminated address regex" []
    | some (text, rest) => do
      let (anyCase, multiline, rest) := soughtFlags rest
      let what ← sought style text anyCase multiline rest
      pure (some (.sought what), rest)
  match s with
  | '/' :: s => expression '/' s
  | '\\' :: mark :: s => expression mark s
  | '$' :: s => pure (some .last, s)
  | c :: rest =>
    if c.isDigit then
      let (n, rest) := number s
      match afterBlanks rest with
      | '~' :: rest =>
        let (step, rest) := number (afterBlanks rest)
        pure (some (if step = 0 then .line n else .every n step), rest)
      | _ => pure (some (.line n), rest)
    else if c = '+' || c = '~' then
      let (n, rest') := number (afterBlanks rest)
      if !isSecond then wrong "invalid usage of +N or ~N as first address" rest'
      else pure (some (if c = '+' then .further n else .multiple n), rest')
    else pure (none, s)
  | [] => pure (none, [])

def ended (s : List Char) : EditM (List Char) :=
  match afterBlanks s with
  | [] => .ok []
  | c :: rest =>
    if c = '\x7d' || c = '#' then .ok (c :: rest)
    else if c = '\n' || c = ';' then .ok rest
    else wrong "extra characters after command" rest

def path (s : List Char) : EditM (String × List Char) :=
  let name := (afterBlanks s).takeWhile (fun c => c != '\n')
  let rest := (afterBlanks s).drop name.length
  if name.isEmpty then wrong "missing filename in r/R/w/W commands" rest
  else .ok (String.ofList name, rest)

def labelOf (s : List Char) : String × List Char :=
  let name := (afterBlanks s).takeWhile (fun c => !c.isWhitespace && c != ';')
  (String.ofList name, (afterBlanks s).drop name.length)

/-- A text that goes on to the end of a line that no backslash stands at, and what follows. Each
step takes at least one character. -/
def textBody : Nat → List Char → List Char × List Char
  | 0, s => ([], s)
  | _, [] => (['\n'], [])
  | _, ['\\'] => ([], [])
  | fuel + 1, '\\' :: c :: s =>
    let (more, rest) := textBody fuel s
    (match c with
      | 'a' => '\x07' :: more
      | 'f' => '\x0c' :: more
      | 'n' => '\n' :: more
      | 'r' => '\r' :: more
      | 't' => '\t' :: more
      | 'v' => '\x0b' :: more
      | c => c :: more, rest)
  | fuel + 1, c :: s =>
    if c = '\n' then (['\n'], s)
    else
      let (more, rest) := textBody fuel s
      (c :: more, rest)

def text (s : List Char) : EditM (List Char × List Char) :=
  let body (s : List Char) : EditM (List Char × List Char) := .ok (textBody (s.length + 1) s)
  match afterBlanks s with
  | [] => wrong "expected \\ after \x60a', \x60c' or \x60i'" []
  | '\\' :: rest =>
    match afterBlanks rest with
    | '\n' :: rest => body rest
    | [] => .ok ([], [])
    | _ => body rest
  | rest => body rest

/-- The parts of a replacement. Each step takes at least one character. -/
def replacement : Nat → List Char → List ReplacementPart
  | 0, _ => []
  | _, [] => []
  | fuel + 1, '\\' :: c :: s =>
    (match c with
      | 'L' => .case .lower
      | 'U' => .case .upper
      | 'l' => .case .lowerNext
      | 'u' => .case .upperNext
      | 'E' => .case .none
      | 'n' => .char '\n'
      | c => if c.isDigit then .group (c.toNat - 48) else .char c) :: replacement fuel s
  | fuel + 1, '&' :: s => .group 0 :: replacement fuel s
  | fuel + 1, c :: s => .char c :: replacement fuel s

structure SubstitutionFlags where
  anyCase : Bool := false
  multiline : Bool := false
  printing : Bool := false
  global : Bool := false
  count : Option Nat := none
  path : Option String := none

/-- The letters and numbers behind a substitution. Each step takes at least one character. -/
def substitutionFlags : Nat → SubstitutionFlags → List Char → EditM (SubstitutionFlags × List Char)
  | 0, f, s => .ok (f, s)
  | _, f, [] => .ok (f, [])
  | fuel + 1, f, c :: s =>
    match c with
    | 'i' | 'I' => substitutionFlags fuel { f with anyCase := true } s
    | 'm' | 'M' => substitutionFlags fuel { f with multiline := true } s
    | 'e' => substitutionFlags fuel f s
    | 'p' =>
      if f.printing then wrong "multiple \x60p' options to \x60s' command" s
      else substitutionFlags fuel { f with printing := true } s
    | 'g' =>
      if f.global then wrong "multiple \x60g' options to \x60s' command" s
      else substitutionFlags fuel { f with global := true } s
    | 'w' => do
      let (name, rest) ← path s
      pure ({ f with path := some name }, rest)
    | '\x7d' | '#' => .ok (f, c :: s)
    | '\n' | ';' => .ok (f, s)
    | ' ' | '\t' | '\r' => substitutionFlags fuel f s
    | c =>
      if c.isDigit then
        let (n, rest) := number (c :: s)
        if f.count.isSome then wrong "multiple number options to \x60s' command" rest
        else if n = 0 then wrong "number option to \x60s' command may not be zero" rest
        else substitutionFlags fuel { f with count := some n } rest
      else wrong "unknown option to \x60s'" s

def substitution (style : EditStyle) (s : List Char) : EditM (EditAction × List Char) := do
  let unterminated : EditM (EditAction × List Char) := wrong "unterminated \x60s' command" []
  match s with
  | [] => unterminated
  | mark :: s =>
    if mark = '\n' || mark = '\\' then wrong "unterminated \x60s' command" s
    else
      match delimited mark true (s.length + 1) s with
      | none => unterminated
      | some (source, rest) =>
        match delimited mark false (rest.length + 1) rest with
        | none => unterminated
        | some (target, rest) =>
          let parts := replacement (target.length + 1) (unescaped false (target.length + 1) target)
          let (f, rest) ← substitutionFlags (rest.length + 1) {} rest
          let what ← sought style source f.anyCase f.multiline rest
          let groups := (what.expression.map Regex.lastGroup).getD 9
          let most := parts.foldl (fun m p => match p with
            | .group n => max m n
            | _ => m) 0
          if groups < most then
            wrong ("invalid reference \\" ++ String.ofList (Decimal.digits most) ++
              " on \x60s' command's RHS") rest
          else
            pure (.substitute what parts f.global f.printing (f.count.getD 1) f.path, rest)

def translated (mark : Char) : List Char → List Char
  | '\\' :: c :: s =>
    if c = 'n' then '\n' :: translated mark s
    else if c = '\\' || c = mark then c :: translated mark s
    else '\\' :: c :: translated mark s
  | c :: s => c :: translated mark s
  | [] => []

def translation (s : List Char) : EditM (EditAction × List Char) := do
  let unterminated : EditM (EditAction × List Char) := wrong "unterminated \x60y' command" []
  match s with
  | [] => unterminated
  | mark :: s =>
    match delimited mark false (s.length + 1) s with
    | none => unterminated
    | some (source, rest) =>
      match delimited mark false (rest.length + 1) rest with
      | none => unterminated
      | some (target, rest) =>
        let chars (s : List Char) : List Char :=
          translated mark (unescaped false (s.length + 1) s)
        let from' := chars source
        let image := chars target
        if from'.length != image.length then
          wrong "strings for \x60y' command are different lengths" rest
        else pure (.translate (from'.zip image), ← ended rest)

def editVersion : List Nat := [4, 9]

def actionOf (style : EditStyle) (c : Char) (s : List Char) : EditM (EditAction × List Char) := do
  let plain (a : EditAction) : EditM (EditAction × List Char) := do pure (a, ← ended s)
  let named (f : String → EditAction) : EditM (EditAction × List Char) := do
    let (name, rest) ← path s
    pure (f name, rest)
  let counted (f : Option Nat → EditAction) : EditM (EditAction × List Char) := do
    let s := afterBlanks s
    if s.head?.any Char.isDigit then
      let (n, rest) := number s
      pure (f (some n), ← ended rest)
    else pure (f none, ← ended s)
  let labelled (f : String → EditAction) : EditM (EditAction × List Char) :=
    let (name, rest) := labelOf s
    pure (f name, rest)
  match c with
  | 'a' => do
    let (t, rest) ← text s
    pure (.append t, rest)
  | 'i' => do
    let (t, rest) ← text s
    pure (.insert t, rest)
  | 'c' => do
    let (t, rest) ← text s
    pure (.change t, rest)
  | 'b' => labelled .branch
  | 't' => labelled (.branchIf true)
  | 'T' => labelled (.branchIf false)
  | 'd' => plain .delete
  | 'D' => plain .deleteFirst
  | 'F' => plain .printName
  | 'g' => plain .get
  | 'G' => plain .getMore
  | 'h' => plain .keep
  | 'H' => plain .keepMore
  | 'l' => counted .list
  | 'n' => plain .next
  | 'N' => plain .nextMore
  | 'p' => plain .print
  | 'P' => plain .printFirst
  | 'q' => counted (fun n => .quit (n.getD 0) true)
  | 'Q' => counted (fun n => .quit (n.getD 0) false)
  | 'r' => named .readFile
  | 'R' => named .readLine
  | 'w' => named .writeFile
  | 'W' => named .writeFirst
  | 's' => substitution style s
  | 'y' => translation s
  | 'x' => plain .exchange
  | '=' => plain .number
  | 'z' => plain .clear
  | 'v' =>
    let (name, rest) := labelOf s
    let numbers := (name.splitOn ".").map (fun w => Decimal.ofDigits (w.toList.filter Char.isDigit))
    if editVersion < numbers then wrong "expected newer version of sed" rest
    else pure (.nothing, rest)
  | c => wrong ("unknown command: \x60" ++ String.singleton c ++ "'") s

def addresses (style : EditStyle) (s : List Char) :
    EditM ((Option LineAddress × Option LineAddress) × List Char) := do
  let (first, rest) ← address style false s
  match first with
  | none => pure ((none, none), rest)
  | some first =>
    let (second, rest) ← match afterBlanks rest with
      | ',' :: rest => do
        let (second, after) ← address style true (afterBlanks rest)
        if second.isNone then wrong "unexpected \x60,'" ((afterBlanks rest).drop 1)
        else pure (second, after)
      | rest => pure (none, rest)
    match first, second with
    | .line 0, some (.sought _) => pure ((some first, second), rest)
    | .line 0, _ => wrong "invalid usage of line address 0" ((afterBlanks rest).drop 1)
    | _, _ => pure ((some first, second), rest)

/-- The commands of a text; `depth` says how many braces are open. Each step takes at least one
character. -/
def readAll (style : EditStyle) : Nat → Nat → List Char →
    EditM (List EditCommand × Nat)
  | 0, depth, _ => .ok ([], depth)
  | fuel + 1, depth, s => do
    match s.dropWhile (fun c => c.isWhitespace || c = ';') with
    | [] => pure ([], depth)
    | s =>
      let ((first, second), rest) ← addresses style s
      let (negated, rest) ← match afterBlanks rest with
        | '!' :: rest =>
          match afterBlanks rest with
          | '!' :: rest => wrong "multiple \x60!'s" rest
          | rest => pure (true, rest)
        | rest => pure (false, rest)
      let command (a : EditAction) (depth : Nat) (rest : List Char) :
          EditM (List EditCommand × Nat) := do
        let (more, depth) ← readAll style fuel depth rest
        pure ({ first, second, negated, action := a } :: more, depth)
      match rest with
      | [] => wrong "missing command" []
      | c :: rest =>
        match c with
        | '#' =>
          if first.isSome then wrong "comments don't accept any addresses" rest
          else readAll style fuel depth (rest.dropWhile (fun c => c != '\n'))
        | ':' =>
          let (name, rest') := labelOf rest
          if first.isSome then wrong ": doesn't want any addresses" rest
          else if name = "" then wrong "\":\" lacks a label" rest'
          else
            let (more, depth) ← readAll style fuel depth rest'
            pure ({ action := .nothing, label := some name } :: more, depth)
        | '\x7b' => command .block (depth + 1) rest
        | '\x7d' =>
          if depth = 0 then wrong "unexpected \x60\x7d'" rest
          else if first.isSome then wrong "\x7d doesn't want any addresses" rest
          else command .blockEnd (depth - 1) (← ended rest)
        | c =>
          if second.isSome && (c = 'q' || c = 'Q') then
            wrong "command only uses one address" rest
          else
            let (a, rest) ← actionOf style c rest
            command a depth rest

end EditCommand

end BuoyGateway.Shell.Utility
