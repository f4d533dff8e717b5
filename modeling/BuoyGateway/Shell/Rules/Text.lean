import BuoyGateway.Shell.Regex
import BuoyGateway.Shell.Rules.Token

/-!
# Texts that are taken apart

Records are parts of an input, fields are parts of a record, and a regular expression finds parts
that are put in another form.
-/

namespace BuoyGateway.Shell.Rules

/-! ### Regular expressions -/

def isSpecial (c : Char) : Bool := "^$.[]|()*+?\x7b\x7d\\".toList.contains c

def escapedAt (s : List Char) : Char × List Char :=
  match s with
  | [] => ('\\', [])
  | c :: rest =>
    if Format.isOctal c then
      let digits := (s.take 3).takeWhile Format.isOctal
      (Format.octet digits, s.drop digits.length)
    else ((Token.escaped? c).getD c, rest)

def literal (c : Char) : List Char := if isSpecial c then ['\\', c] else [c]

/-- What stands in brackets, where backslashes have lost their meaning: ranges of characters and
names of classes, and what follows the brackets. Each step takes at least one character. -/
def bracketed : Nat → List Char → List (Char × Char) × List Char × List Char
  | 0, s => ([], [], s)
  | fuel + 1, s =>
    let one (s : List Char) : Char × List Char :=
      match s with
      | '\\' :: rest => escapedAt rest
      | c :: rest => (c, rest)
      | [] => (']', [])
    match s with
    | [] => ([], [], [])
    | ']' :: rest => ([], [], rest)
    | '[' :: ':' :: rest =>
      let name := rest.takeWhile (fun c => c != ']')
      let (ranges, classes, rest) := bracketed fuel (rest.drop (name.length + 1))
      (ranges, '[' :: ':' :: name ++ ']' :: classes, rest)
    | s =>
      let (a, rest) := one s
      let (b, rest) := match rest with
        | '-' :: ']' :: _ => (a, rest)
        | '-' :: more => one more
        | _ => (a, rest)
      let (ranges, classes, rest) := bracketed fuel rest
      ((a, b) :: ranges, classes, rest)

def brackets (negated : Bool) (ranges : List (Char × Char)) (classes : List Char) : List Char :=
  let singles := ranges.filter (fun r => r.1 = r.2)
  let has (c : Char) : Bool := singles.any (fun r => r.1 = c)
  let isPlain (c : Char) : Bool := c != ']' && c != '^' && c != '-' && c != '['
  let plain := (singles.map Prod.fst).filter isPlain
  let wide := (ranges.filter (fun r => r.1 != r.2)).flatMap (fun r => [r.1, '-', r.2])
  let first := if has ']' then [']'] else []
  let middle := wide ++ plain ++ classes
  let opening := if has '[' then ['['] else []
  let last := (if has '^' then ['^'] else []) ++ (if has '-' then ['-'] else [])
  if !negated && first.isEmpty && middle.isEmpty && last.head? = some '^' && opening.isEmpty then
    if has '-' then ['[', '-', '^', ']'] else ['\\', '^']
  else ['['] ++ (if negated then ['^'] else []) ++ first ++ middle ++ opening ++ last ++ [']']

/-- A regular expression in which backslashes stand only in front of signs. Each step takes at least
one character. -/
def plainExpression : Nat → List Char → List Char
  | 0, s => s
  | fuel + 1, s =>
    match s with
    | [] => []
    | '\\' :: rest =>
      let (c, rest) := escapedAt rest
      literal c ++ plainExpression fuel rest
    | '[' :: rest =>
      let (negated, rest) := match rest with
        | '^' :: rest => (true, rest)
        | _ => (false, rest)
      let (first, rest) := match rest with
        | ']' :: rest => ([(']', ']')], rest)
        | _ => ([], rest)
      let (ranges, classes, rest) := bracketed (rest.length + 1) rest
      brackets negated (first ++ ranges) classes ++ plainExpression fuel rest
    | c :: rest => c :: plainExpression fuel rest

def expressionFault (text : String) : String :=
  if text.contains '[' then "missing ']'"
  else if text.contains '(' then "missing ')'"
  else if text.contains ')' then "missing '('"
  else "missing operand"

def expressionOf (s : List Char) : Except String Regex :=
  match Regex.read true false (plainExpression (s.length + 1) s) with
  | .ok r => .ok r
  | .error e => .error (expressionFault e)

/-! ### Records and fields -/

/-- What stands in front of the first match that is not empty, and what follows it. -/
def cutAt? (r : Regex) (s : List Char) : Option (List Char × List Char) :=
  let rec go : Option Char → List Char → List Char → Option (List Char × List Char)
    | before, skipped, s =>
      match r.matchAt false { before, rest := s } with
      | some after =>
        if after.taken = 0 then
          match s with
          | [] => none
          | c :: rest => go (some c) (c :: skipped) rest
        else some (skipped.reverse, after.rest)
      | none =>
        match s with
        | [] => none
        | c :: rest => go (some c) (c :: skipped) rest
  go none [] s

/-- The parts of a text between matches. Each step takes at least one character. -/
def partsAt (r : Regex) : Nat → List Char → List (List Char)
  | 0, s => [s]
  | fuel + 1, s =>
    match cutAt? r s with
    | some (front, rest) => front :: partsAt r fuel rest
    | none => [s]

def wordsOf (s : List Char) : List (List Char) :=
  let (done, open') := s.foldl
    (fun (acc : List (List Char) × List Char) c =>
      if isGap c then (if acc.2.isEmpty then acc else (acc.2.reverse :: acc.1, []))
      else (acc.1, c :: acc.2))
    ([], [])
  (if open'.isEmpty then done else open'.reverse :: done).reverse

inductive Separator
  | gaps
  | nothing
  | character (c : Char)
  | expression (r : Regex)

def Separator.of (s : List Char) : Except String Separator :=
  match s with
  | [] => .ok .nothing
  | [' '] => .ok .gaps
  | [c] => .ok (.character c)
  | s => (expressionOf s).map .expression

def Separator.fields (separator : Separator) (s : List Char) : List (List Char) :=
  if s.isEmpty then []
  else
    match separator with
    | .gaps => wordsOf s
    | .nothing => s.map (fun c => [c])
    | .character c => s.splitOnP (fun d => d = c)
    | .expression r => partsAt r (s.length + 1) s

def Separator.record? (separator : Separator) (s : List Char) : Option (List Char × List Char) :=
  let upTo (c : Char) (s : List Char) : List Char × List Char :=
    let front := s.takeWhile (fun d => d != c)
    (front, s.drop (front.length + 1))
  match separator with
  | .nothing =>
    let s := s.dropWhile (fun c => c = '\n')
    if s.isEmpty then none
    else
      let rec paragraph : List Char → List Char × List Char
        | [] | ['\n'] => ([], [])
        | '\n' :: '\n' :: rest => ([], rest.dropWhile (fun c => c = '\n'))
        | c :: rest =>
          let (front, rest) := paragraph rest
          (c :: front, rest)
      some (paragraph s)
  | .gaps => if s.isEmpty then none else some (upTo ' ' s)
  | .character c => if s.isEmpty then none else some (upTo c s)
  | .expression r =>
    if s.isEmpty then none
    else
      match cutAt? r s with
      | some found => some found
      | none => some (s, [])

/-! ### Replacements -/

/-- What a match is replaced by: the match itself stands where a sign for it is. Each step takes at
least one character. -/
def replacement (found : List Char) : Nat → List Char → List Char
  | 0, s => s
  | fuel + 1, s =>
    match s with
    | [] => []
    | '&' :: rest => found ++ replacement found fuel rest
    | '\\' :: _ =>
      let n := (s.takeWhile (fun c => c = '\\')).length
      match s.drop n with
      | '&' :: rest =>
        List.replicate (n / 2) '\\' ++ (if n % 2 = 0 then found else ['&']) ++
          replacement found fuel rest
      | rest => List.replicate n '\\' ++ replacement found fuel rest
    | c :: rest => c :: replacement found fuel rest

/-- A text with the first match replaced, or with all of them, and how many were. An empty match has
no place directly after another one. Each step takes at least one character or is the last one. -/
def replaced (r : Regex) (new : List Char) (all : Bool) :
    Nat → Option Char → Bool → List Char → List Char × Nat
  | 0, _, _, s => (s, 0)
  | fuel + 1, before, afterMatch, s =>
    match r.searchFrom false before [] s with
    | none => (s, 0)
    | some found =>
      let lastOf (before : Option Char) (s : List Char) : Option Char :=
        match s.getLast? with
        | some c => some c
        | none => before
      let text := replacement found.text (new.length + 1) new
      if found.text.isEmpty && found.front.isEmpty && afterMatch then
        match s with
        | [] => ([], 0)
        | c :: rest =>
          let (others, n) := replaced r new all fuel (some c) false rest
          (c :: others, n)
      else if !all then (found.front ++ text ++ found.rest, 1)
      else if found.text.isEmpty then
        match found.rest with
        | [] => (found.front ++ text, 1)
        | c :: rest =>
          let (others, n) := replaced r new all fuel (some c) false rest
          (found.front ++ text ++ c :: others, n + 1)
      else
        let before := lastOf before (found.front ++ found.text)
        let (others, n) := replaced r new all fuel before true found.rest
        (found.front ++ text ++ others, n + 1)

end BuoyGateway.Shell.Rules
