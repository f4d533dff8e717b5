/-!
# Patterns

Patterns of file names and of choices: `?` is any character, `*` any number of them, and brackets
hold the characters that are meant. A character that was quoted stands for itself, and so does one
after a backslash that was not.
-/

namespace BuoyGateway.Shell

abbrev Glyph := Char × Bool

inductive PatternItem
  | char (c : Char)
  | any
  | many
  | oneOf (negated : Bool) (ranges : List (Char × Char))
  deriving DecidableEq, Repr

abbrev Pattern := List PatternItem

namespace Pattern

def classRanges : String → List (Char × Char)
  | "digit" => [('0', '9')]
  | "upper" => [('A', 'Z')]
  | "lower" => [('a', 'z')]
  | "alpha" => [('A', 'Z'), ('a', 'z')]
  | "alnum" => [('0', '9'), ('A', 'Z'), ('a', 'z')]
  | "xdigit" => [('0', '9'), ('A', 'F'), ('a', 'f')]
  | "blank" => [(' ', ' '), ('\t', '\t')]
  | "space" => [('\t', '\r'), (' ', ' ')]
  | "cntrl" => [('\x00', '\x1f'), ('\x7f', '\x7f')]
  | "print" => [(' ', '~')]
  | "graph" => [('!', '~')]
  | "punct" => [('!', '/'), (':', '@'), ('[', '\x60'), ('\x7b', '~')]
  | _ => []

/-- The ranges in brackets, from after the first character on, and what follows the brackets;
nothing if they are not closed. -/
def bracketTail : Nat → List Glyph → Option (List (Char × Char) × List Glyph)
  | 0, _ => none
  | _, [] => none
  | _ + 1, (']', false) :: rest => some ([], rest)
  | fuel + 1, ('[', false) :: (':', false) :: rest =>
    let name := rest.takeWhile (fun g => g.1 != ':')
    (bracketTail fuel (rest.drop (name.length + 2))).map (fun (ranges, rest) =>
      (classRanges (String.ofList (name.map Prod.fst)) ++ ranges, rest))
  | fuel + 1, (a, _) :: ('-', false) :: (b, q) :: rest =>
    if b = ']' && !q then some ([(a, a), ('-', '-')], rest)
    else (bracketTail fuel rest).map (fun (ranges, rest) => ((a, b) :: ranges, rest))
  | fuel + 1, (a, _) :: rest =>
    (bracketTail fuel rest).map (fun (ranges, rest) => ((a, a) :: ranges, rest))

def bracket? (s : List Glyph) : Option (PatternItem × List Glyph) :=
  let (negated, s) := match s with
    | ('!', false) :: rest => (true, rest)
    | _ => (false, s)
  match s with
  | (']', false) :: rest =>
    (bracketTail (rest.length + 1) rest).map (fun (ranges, rest) =>
      (.oneOf negated ((']', ']') :: ranges), rest))
  | _ =>
    (bracketTail (s.length + 1) s).map (fun (ranges, rest) => (.oneOf negated ranges, rest))

/-- The pattern that characters make; each step takes at least one of them. -/
def ofGlyphsFrom : Nat → List Glyph → Pattern
  | 0, _ | _, [] => []
  | fuel + 1, (c, true) :: rest => .char c :: ofGlyphsFrom fuel rest
  | fuel + 1, ('\\', false) :: (c, _) :: rest => .char c :: ofGlyphsFrom fuel rest
  | fuel + 1, (c, false) :: rest =>
    match c with
    | '?' => .any :: ofGlyphsFrom fuel rest
    | '*' => .many :: ofGlyphsFrom fuel rest
    | '[' =>
      match bracket? rest with
      | some (item, rest) => item :: ofGlyphsFrom fuel rest
      | none => .char '[' :: ofGlyphsFrom fuel rest
    | c => .char c :: ofGlyphsFrom fuel rest

def ofGlyphs (s : List Glyph) : Pattern := ofGlyphsFrom s.length s

def accepts : PatternItem → Char → Bool
  | .char c, d => c == d
  | .any, _ => true
  | .many, _ => true
  | .oneOf negated ranges, d => negated != ranges.any (fun r => r.1 ≤ d && d ≤ r.2)

def matchesAll : Pattern → List Char → Bool
  | [], s => s.isEmpty
  | .many :: p, [] => matchesAll p []
  | .many :: p, c :: s => matchesAll p (c :: s) || matchesAll (.many :: p) s
  | _ :: _, [] => false
  | item :: p, c :: s => accepts item c && matchesAll p s
termination_by p s => p.length + s.length

def isMagic : List Glyph → Bool
  | [] => false
  | ('\\', false) :: _ :: s => isMagic s
  | (c, quoted) :: s => (!quoted && c ∈ ['?', '*', '[']) || isMagic s

/-- The text without the shortest or longest part at its front that the pattern matches. -/
def withoutFront (p : Pattern) (longest : Bool) (s : List Char) : List Char :=
  let lengths := List.range (s.length + 1)
  let lengths := if longest then lengths.reverse else lengths
  match lengths.find? (fun n => matchesAll p (s.take n)) with
  | some n => s.drop n
  | none => s

/-- The front of the text that is left when the shortest or longest part at its end that the pattern
matches is taken away, if it matches one. -/
def withoutBack? (p : Pattern) (longest : Bool) (s : List Char) : Option (List Char) :=
  let lengths := List.range (s.length + 1)
  let lengths := if longest then lengths else lengths.reverse
  (lengths.find? (fun n => matchesAll p (s.drop n))).map (fun n => s.take n)

/-- Texts without what the pattern matches at the front of the first. Where as much as possible is
taken away and that is all of the first, the others go with it. -/
def withoutFronts (p : Pattern) (longest : Bool) : List (List Char) → List (List Char)
  | [] => []
  | s :: others =>
    if longest && !others.isEmpty && matchesAll p s then [[]]
    else withoutFront p longest s :: others

/-- Texts without what the pattern matches at the end of one, which is the first where as much as
possible is taken away and else the last of which an end matches. The texts after it go with it. -/
def withoutBacks? (p : Pattern) (longest : Bool) : List (List Char) → Option (List (List Char))
  | [] => none
  | s :: others =>
    if longest then (withoutBack? p true s).map (fun t => [t])
    else
      match withoutBacks? p false others with
      | some rest => some (s :: rest)
      | none => (withoutBack? p false s).map (fun t => [t])

def without (p : Pattern) (atEnd longest : Bool) (texts : List (List Char)) : List (List Char) :=
  if atEnd then (withoutBacks? p longest texts).getD texts else withoutFronts p longest texts

end Pattern

end BuoyGateway.Shell
