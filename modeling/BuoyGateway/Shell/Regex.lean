import BuoyGateway.Decimal.Numeral
import BuoyGateway.Shell.Pattern

/-!
# Regular expressions

The expressions of text utilities, in their basic and their extended form. Of all matches that begin
at the first place where there is one, the longest counts; of equally long ones, the one in which
what comes first takes most.
-/

namespace BuoyGateway.Shell

inductive Boundary
  | start
  | finish
  | wordStart
  | wordEnd
  | wordEdge
  | noWordEdge
  | noWordBefore
  | noWordAfter
  | lineStart
  | lineFinish
  deriving DecidableEq, Repr

inductive Regex
  | nothing
  | oneOf (negated : Bool) (ranges : List (Char × Char))
  | boundary (b : Boundary)
  | group (n : Nat) (r : Regex)
  | again (n : Nat)
  | both (first second : Regex)
  | either (first second : Regex)
  | repeated (least : Nat) (most : Option Nat) (r : Regex)
  deriving Repr

namespace Regex

/-! ### Matching -/

/-- A place in a text: the character before it, the characters after it, how many characters were
matched, and what the groups have matched, the latest first. -/
structure Spot where
  before : Option Char
  rest : List Char
  taken : Nat := 0
  groups : List (Nat × List Char) := []

def isWordPart (c : Char) : Bool := c.isAlphanum || c == '_'

def Spot.isAt (spot : Spot) (b : Boundary) : Bool :=
  let before := (spot.before.map isWordPart).getD false
  let after := (spot.rest.head?.map isWordPart).getD false
  match b with
  | .start => spot.before.isNone
  | .finish => spot.rest.isEmpty
  | .wordStart => !before && after
  | .wordEnd => before && !after
  | .wordEdge => before != after
  | .noWordEdge => before == after
  | .noWordBefore => !before
  | .noWordAfter => !after
  | .lineStart => spot.before.isNone || spot.before = some '\n'
  | .lineFinish => spot.rest.isEmpty || spot.rest.head? = some '\n'

def Spot.onward (spot : Spot) (n : Nat) : Spot :=
  if n = 0 then spot
  else
    { spot with
      before := spot.rest[n - 1]?
      rest := spot.rest.drop n
      taken := spot.taken + n }

def sameChar (anyCase : Bool) (c d : Char) : Bool :=
  c == d || (anyCase && c.toLower == d.toLower)

def inRanges (anyCase : Bool) (ranges : List (Char × Char)) (c : Char) : Bool :=
  let isIn (c : Char) : Bool := ranges.any (fun r => r.1 ≤ c && c ≤ r.2)
  isIn c || (anyCase && (isIn c.toLower || isIn c.toUpper))

/-- A way to go on from a place, with the best match that was found so far. -/
abbrev Onward := Spot → Option Spot → Option Spot

def isWhole (best : Option Spot) : Bool := best.any (fun s => s.rest.isEmpty)

def turns (one : Spot → Onward → Option Spot → Option Spot) :
    Nat → Nat → Option Nat → Spot → Onward → Option Spot → Option Spot
  | 0, _, _, spot, next, best => next spot best
  | fuel + 1, least, most, spot, next, best =>
    if isWhole best then best
    else
      let more :=
        if most = some 0 then best
        else
          one spot
            (fun after best =>
              if after.taken = spot.taken && least = 0 then best
              else turns one fuel (least - 1) (most.map (fun m => m - 1)) after next best)
            best
      if least = 0 && !isWhole more then next spot more else more

def explore (anyCase : Bool) : Regex → Spot → Onward → Option Spot → Option Spot
  | .nothing, spot, next, best => next spot best
  | .oneOf negated ranges, spot, next, best =>
    match spot.rest with
    | [] => best
    | c :: _ => if inRanges anyCase ranges c != negated then next (spot.onward 1) best else best
  | .boundary b, spot, next, best => if spot.isAt b then next spot best else best
  | .group n r, spot, next, best =>
    explore anyCase r spot
      (fun after best =>
        let text := spot.rest.take (after.taken - spot.taken)
        next { after with groups := (n, text) :: after.groups } best)
      best
  | .again n, spot, next, best =>
    match spot.groups.lookup n with
    | none => best
    | some text =>
      let here := spot.rest.take text.length
      if here.length = text.length && (text.zip here).all (fun p => sameChar anyCase p.1 p.2) then
        next (spot.onward text.length) best
      else best
  | .both a b, spot, next, best =>
    explore anyCase a spot (fun after best => explore anyCase b after next best) best
  | .either a b, spot, next, best =>
    let first := explore anyCase a spot next best
    if isWhole first then first else explore anyCase b spot next first
  | .repeated least most r, spot, next, best =>
    turns (fun spot next best => explore anyCase r spot next best)
      (spot.rest.length + least + 1) least most spot next best

def matchAt (r : Regex) (anyCase : Bool) (spot : Spot) : Option Spot :=
  r.explore anyCase spot
    (fun after best =>
      match best with
      | none => some after
      | some b => if b.taken < after.taken then some after else best)
    none

structure Found where
  front : List Char
  text : List Char
  rest : List Char
  groups : List (Nat × List Char)

def searchFrom (r : Regex) (anyCase : Bool) : Option Char → List Char → List Char → Option Found
  | before, skipped, s =>
    match r.matchAt anyCase { before, rest := s } with
    | some after => some ⟨skipped.reverse, s.take after.taken, after.rest, after.groups⟩
    | none =>
      match s with
      | [] => none
      | c :: rest => searchFrom r anyCase (some c) (c :: skipped) rest

def search (r : Regex) (anyCase : Bool) (s : List Char) : Option Found :=
  r.searchFrom anyCase none [] s

def isIn (r : Regex) (anyCase : Bool) (s : List Char) : Bool := (r.search anyCase s).isSome

/-! ### Reading -/

def char (c : Char) : Regex := .oneOf false [(c, c)]

def any : Regex := .oneOf true []

def sequence : List Regex → Regex
  | [] => .nothing
  | [r] => r
  | r :: rs => .both r (sequence rs)

def lastGroup : Regex → Nat
  | .group n r => max n r.lastGroup
  | .both a b | .either a b => max a.lastGroup b.lastGroup
  | .repeated _ _ r => r.lastGroup
  | _ => 0

def shorthand? : Char → Option Regex
  | 'w' => some (.oneOf false [('0', '9'), ('A', 'Z'), ('_', '_'), ('a', 'z')])
  | 'W' => some (.oneOf true [('0', '9'), ('A', 'Z'), ('_', '_'), ('a', 'z')])
  | 's' => some (.oneOf false [('\t', '\r'), (' ', ' ')])
  | 'S' => some (.oneOf true [('\t', '\r'), (' ', ' ')])
  | 'b' => some (.boundary .wordEdge)
  | 'B' => some (.boundary .noWordEdge)
  | '<' => some (.boundary .wordStart)
  | '>' => some (.boundary .wordEnd)
  | '\x60' => some (.boundary .start)
  | '\'' => some (.boundary .finish)
  | _ => none

def classes : List String :=
  ["alpha", "digit", "alnum", "upper", "lower", "space", "blank", "punct", "print", "graph",
   "cntrl", "xdigit"]

def openBracket : String := "Unmatched [, [^, [:, [., or [="

/-- The ranges in brackets, from after the first character on, and what follows the brackets. Each
step takes at least one character. -/
def brackets : Nat → List Char → Except String (List (Char × Char) × List Char)
  | 0, _ => .error openBracket
  | fuel + 1, s =>
    match s with
    | [] => .error openBracket
    | ']' :: rest => .ok ([], rest)
    | '[' :: ':' :: rest =>
      let name := rest.takeWhile (fun c => c != ':')
      match rest.drop name.length with
      | ':' :: ']' :: rest =>
        let name := String.ofList name
        if classes.contains name then do
          let (ranges, rest) ← brackets fuel rest
          pure (Pattern.classRanges name ++ ranges, rest)
        else .error "Invalid character class name"
      | _ => .error openBracket
    | '[' :: mark :: c :: mark' :: ']' :: rest =>
      if (mark = '.' || mark = '=') && mark' = mark then do
        let (ranges, rest) ← brackets fuel rest
        pure ((c, c) :: ranges, rest)
      else if mark = '.' || mark = '=' then .error "Invalid collation character"
      else do
        let (ranges, rest) ← brackets fuel (mark :: c :: mark' :: ']' :: rest)
        pure (('[', '[') :: ranges, rest)
    | a :: '-' :: b :: rest =>
      if b = ']' then .ok ([(a, a), ('-', '-')], rest)
      else if b < a then .error "Invalid range end"
      else do
        let (ranges, rest) ← brackets fuel rest
        pure ((a, b) :: ranges, rest)
    | a :: rest => do
      let (ranges, rest) ← brackets fuel rest
      pure ((a, a) :: ranges, rest)

def loneClass : String := "character class syntax is [[:space:]], not [:space:]"

def isLoneClass (s : List Char) : Bool :=
  let inner := s.takeWhile (fun c => c != ']')
  inner.length < s.length && 2 < inner.length && inner.head? = some ':' &&
    inner.getLast? = some ':' && inner.all (fun c => c != '[' && c != '-')

def bracket (strict : Bool) (s : List Char) : Except String (Regex × List Char) := do
  if isLoneClass s then throw loneClass
  let (negated, s) := match s with
    | '^' :: rest => (true, rest)
    | _ => (false, s)
  match s with
  | [] => throw (if strict then openBracket else "Invalid regular expression")
  | ']' :: '-' :: b :: rest =>
    if b = ']' then pure (.oneOf negated [(']', ']'), ('-', '-')], rest)
    else do
      let (ranges, rest) ← brackets (rest.length + 1) rest
      pure (.oneOf negated ((']', b) :: ranges), rest)
  | ']' :: rest => do
    let (ranges, rest) ← brackets (rest.length + 1) rest
    pure (.oneOf negated ((']', ']') :: ranges), rest)
  | s => do
    let (ranges, rest) ← brackets (s.length + 1) s
    pure (.oneOf negated ranges, rest)

/-- The numbers in braces, and what follows them. Where that is not `strict`, braces around anything
else stand for themselves. -/
def counts? (extended strict : Bool) (s : List Char) :
    Except String (Option (Nat × Option Nat × List Char)) := do
  let first := s.takeWhile Char.isDigit
  let s := s.drop first.length
  let (most, isList, s) := match s with
    | ',' :: rest =>
      let second := rest.takeWhile Char.isDigit
      (if second.isEmpty then none else some (Decimal.ofDigits second), true,
        rest.drop second.length)
    | _ => (some (Decimal.ofDigits first), false, s)
  let least := Decimal.ofDigits first
  let isCount := isList || !first.isEmpty
  let wrong (text : String) : Except String (Option (Nat × Option Nat × List Char)) :=
    if extended && !strict then .ok none else .error text
  let closed (rest : List Char) : Except String (Option (Nat × Option Nat × List Char)) :=
    if !isCount then wrong "Invalid content of \\\x7b\\\x7d"
    else if most.any (fun m => m < least) then .error "Invalid content of \\\x7b\\\x7d"
    else if 32767 < max least (most.getD 0) then .error "Regular expression too big"
    else .ok (some (least, most, rest))
  match extended, s with
  | true, '\x7d' :: rest | false, '\\' :: '\x7d' :: rest => closed rest
  | _, [] => wrong "Unmatched \\\x7b"
  | _, _ => wrong "Invalid content of \\\x7b\\\x7d"

inductive Sign
  | opening
  | closing
  | bar
  | star
  | plus
  | question
  | brace
  | caret
  | dollar
  | dot
  | bracket
  | digit (n : Nat)
  | other (r : Regex)
  deriving Repr

def sign? (extended : Bool) (s : List Char) : Except String (Option (Sign × List Char)) :=
  match s with
  | [] => .ok none
  | ['\\'] => .error "Trailing backslash"
  | '\\' :: c :: rest =>
    let sign : Sign :=
      match c with
      | '(' => if extended then .other (char c) else .opening
      | ')' => if extended then .other (char c) else .closing
      | '|' => if extended then .other (char c) else .bar
      | '+' => if extended then .other (char c) else .plus
      | '?' => if extended then .other (char c) else .question
      | '\x7b' => if extended then .other (char c) else .brace
      | 'n' => .other (char '\n')
      | c =>
        if c.isDigit && c != '0' then .digit (c.toNat - 48)
        else .other ((shorthand? c).getD (char c))
    .ok (some (sign, rest))
  | c :: rest =>
    let sign : Sign :=
      match c with
      | '(' => if extended then .opening else .other (char c)
      | ')' => if extended then .closing else .other (char c)
      | '|' => if extended then .bar else .other (char c)
      | '+' => if extended then .plus else .other (char c)
      | '?' => if extended then .question else .other (char c)
      | '\x7b' => if extended then .brace else .other (char c)
      | '*' => .star
      | '^' => .caret
      | '$' => .dollar
      | '.' => .dot
      | '[' => .bracket
      | c => .other (char c)
    .ok (some (sign, rest))

def endsBranch (extended : Bool) (s : List Char) : Bool :=
  match sign? extended s with
  | .ok none | .ok (some (.bar, _)) => true
  | .ok (some (.closing, _)) => true
  | _ => false

/-- What was read of an expression: it itself, what is left, and how many groups were opened. -/
abbrev Part := Regex × List Char × Nat

mutual

def alternatives (extended strict : Bool) : Nat → Nat → Nat → List Char → Except String Part
  | 0, _, _, _ => .error "Regular expression too big"
  | fuel + 1, depth, groups, s => do
    let (first, rest, groups) ← branch extended strict fuel depth groups [] s
    match ← sign? extended rest with
    | some (.bar, rest) =>
      let (second, rest, groups) ← alternatives extended strict fuel depth groups rest
      pure (.either first second, rest, groups)
    | _ => pure (first, rest, groups)

def branch (extended strict : Bool) : Nat → Nat → Nat → List Regex → List Char → Except String Part
  | 0, _, _, _, _ => .error "Regular expression too big"
  | fuel + 1, depth, groups, done, s => do
    let finish (rest : List Char) : Except String Part :=
      pure (sequence done.reverse, rest, groups)
    let isFirst := done.all (fun r => match r with
      | .boundary .start => true
      | _ => false)
    let goOn (r : Regex) (rest : List Char) (groups : Nat) : Except String Part :=
      branch extended strict fuel depth groups (r :: done) rest
    let astray (c : Char) (rest : List Char) : Except String Part :=
      if !extended then goOn (char c) rest groups
      else if strict then .error "Invalid preceding regular expression"
      else branch extended strict fuel depth groups done rest
    let multiply (least : Nat) (most : Option Nat) (rest : List Char) : Except String Part :=
      match done with
      | r :: done => branch extended strict fuel depth groups (.repeated least most r :: done) rest
      | [] => .error "Invalid preceding regular expression"
    match ← sign? extended s with
    | none => finish s
    | some (.bar, _) => finish s
    | some (.closing, rest) =>
      if depth = 0 then
        if extended && !strict then goOn (char ')') rest groups
        else .error "Unmatched ) or \\)"
      else finish s
    | some (.opening, rest) =>
      let (inner, rest, inside) ← alternatives extended strict fuel (depth + 1) (groups + 1) rest
      match ← sign? extended rest with
      | some (.closing, rest) => goOn (.group (groups + 1) inner) rest inside
      | _ => .error "Unmatched ( or \\("
    | some (.star, rest) =>
      if isFirst then astray '*' rest
      else multiply 0 none rest
    | some (.plus, rest) =>
      if isFirst then astray '+' rest
      else multiply 1 none rest
    | some (.question, rest) =>
      if isFirst then astray '?' rest
      else multiply 0 (some 1) rest
    | some (.brace, rest) =>
      if extended && strict && isFirst then throw "Invalid preceding regular expression"
      match ← counts? extended strict rest with
      | none => goOn (char '\x7b') rest groups
      | some (least, most, after) =>
        if !isFirst then multiply least most after
        else if strict then .error "Invalid preceding regular expression"
        else if extended then branch extended strict fuel depth groups done after
        else goOn (char '\x7b') rest groups
    | some (.caret, rest) =>
      if extended || isFirst then goOn (.boundary .start) rest groups
      else goOn (char '^') rest groups
    | some (.dollar, rest) =>
      if extended || endsBranch extended rest then goOn (.boundary .finish) rest groups
      else goOn (char '$') rest groups
    | some (.dot, rest) => goOn any rest groups
    | some (.bracket, rest) =>
      let (r, rest) ← bracket strict rest
      goOn r rest groups
    | some (.digit n, rest) =>
      if groups < n then .error "Invalid back reference" else goOn (.again n) rest groups
    | some (.other r, rest) => goOn r rest groups

end

/-- The expression that a text spells, or what is wrong with it. Where that is not `strict`, signs
that have nothing to work on are no fault. -/
def read (extended strict : Bool) (s : List Char) : Except String Regex := do
  let (r, _, _) ← alternatives extended strict (4 * s.length + 4) 0 0 s
  pure r

/-- The signs of an extended expression that have nothing to work on, as they are named; `atStart`
says that nothing came before. Each step takes at least one character. -/
def idleSigns : Nat → Bool → List Char → List String
  | 0, _, _ => []
  | fuel + 1, atStart, s =>
    let idle (name : String) (rest : List Char) : List String :=
      if atStart then name :: idleSigns fuel true rest else idleSigns fuel false rest
    match sign? true s with
    | .error _ | .ok none => []
    | .ok (some (.star, rest)) => idle "*" rest
    | .ok (some (.plus, rest)) => idle "+" rest
    | .ok (some (.question, rest)) => idle "?" rest
    | .ok (some (.brace, rest)) =>
      match counts? true false rest with
      | .ok (some (_, _, after)) =>
        (if atStart then ["\x7b...\x7d"] else []) ++ idleSigns fuel false after
      | _ => idleSigns fuel false rest
    | .ok (some (.opening, rest)) | .ok (some (.bar, rest)) => idleSigns fuel true rest
    | .ok (some (.caret, rest)) | .ok (some (.dollar, rest))
    | .ok (some (.other (.boundary _), rest)) => idleSigns fuel atStart rest
    | .ok (some (.bracket, rest)) =>
      match bracket false rest with
      | .ok (_, rest) => idleSigns fuel false rest
      | .error _ => []
    | .ok (some (_, rest)) => idleSigns fuel false rest

def ofText (s : List Char) : Regex := sequence (s.map char)

def byLines : Regex → Regex
  | .boundary .start => .boundary .lineStart
  | .boundary .finish => .boundary .lineFinish
  | .group n r => .group n r.byLines
  | .both a b => .both a.byLines b.byLines
  | .either a b => .either a.byLines b.byLines
  | .repeated least most r => .repeated least most r.byLines
  | r => r

def within (r : Regex) (words lines : Bool) : Regex :=
  if lines then .both (.boundary .start) (.both r (.boundary .finish))
  else if words then .both (.boundary .noWordBefore) (.both r (.boundary .noWordAfter))
  else r

end Regex

end BuoyGateway.Shell
