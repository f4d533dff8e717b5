import BuoyGateway.Shell.Pattern
import BuoyGateway.Shell.Place

/-!
# Fields

What a word becomes when it is used. Its pieces give atoms: characters that were quoted, that came
from a value, or that stand in the script. White space that came from a value ends a field, and a
field with a pattern becomes the names that it matches.
-/

namespace BuoyGateway.Shell

inductive Atom
  /-- A character that was quoted or not, and that came from a value or not. -/
  | char (c : Char) (quoted fromValue : Bool)
  | mark
  | next
  deriving DecidableEq, Repr

namespace Field

def ofText (quoted fromValue : Bool) (s : List Char) : List Atom :=
  s.map (fun c => .char c quoted fromValue)

/-- Fields that are being made: those that are whole, the one that was begun, backwards, and
whether the last one ended with white space. -/
structure Making where
  whole : List (List Glyph) := []
  begun : Option (List Glyph) := none
  spaced : Bool := false

def Making.finish (m : Making) : Making :=
  match m.begun with
  | none => m
  | some field => { m with whole := field.reverse :: m.whole, begun := none }

def Making.step (separators : List Char) (m : Making) : Atom → Making
  | .mark => { m with begun := some (m.begun.getD []), spaced := false }
  | .next => { m.finish with spaced := false }
  | .char c quoted fromValue =>
    if fromValue && !quoted && separators.contains c then
      if c.isWhitespace then { m.finish with spaced := m.spaced || m.begun.isSome }
      else if m.spaced then { m with spaced := false }
      else { Making.finish { m with begun := some (m.begun.getD []) } with spaced := false }
    else { m with begun := some ((c, quoted) :: m.begun.getD []), spaced := false }

def split (separators : List Char) (atoms : List Atom) : List (List Glyph) :=
  (atoms.foldl (Making.step separators) {}).finish.whole.reverse

def join (atoms : List Atom) : List Char :=
  atoms.filterMap (fun
    | .char c _ _ => some c
    | .mark => none
    | .next => some ' ')

def glyphs (atoms : List Atom) : List Glyph :=
  atoms.filterMap (fun
    | .char c quoted _ => some (c, quoted)
    | .mark => none
    | .next => some (' ', true))

def components (s : List Glyph) : List (List Glyph) :=
  s.foldr
    (fun g parts =>
      if g.1 = '/' then [] :: parts
      else
        match parts with
        | part :: parts => (g :: part) :: parts
        | [] => [[g]])
    [[]]

def textOf (s : List Glyph) : String := String.ofList (s.map Prod.fst)

def nameOf : List Glyph → List Char
  | [] | [('\\', false)] => []
  | ('\\', false) :: (c, _) :: s => c :: nameOf s
  | (c, _) :: s => c :: nameOf s

/-- The names in a directory that a pattern matches. Names that begin with a dot, and the names of
the directory itself and of the one above, are only meant by patterns that begin with one. -/
def namesMatching (p : Process) (text : String) (component : List Glyph) : List String :=
  match p.locateDirectory (if text = "" then "." else text) with
  | .error _ => []
  | .ok loc =>
    let pattern := Pattern.ofGlyphs component
    let dotted := component.head?.map Prod.fst = some '.'
    let names := (p.disk.names loc).map Process.ofPath
    let names := if dotted then "." :: ".." :: names else names
    names.filter (fun name =>
      Pattern.matchesAll pattern name.toList && (dotted || name.toList.head? != some '.'))

def matching (p : Process) : List String → List (List Glyph) → List String
  | texts, [] => texts
  | texts, component :: rest =>
    let onward (text : String) : String := if rest.isEmpty then text else text ++ "/"
    let reached := texts.flatMap (fun text =>
      if Pattern.isMagic component then
        (namesMatching p text component).map (fun name => text ++ onward name)
      else [text ++ onward (String.ofList (nameOf component))])
    matching p reached rest

/-- The texts that a field becomes: the paths that it matches, or else the field itself. -/
def expand (p : Process) (field : List Glyph) : List String :=
  if p.has .plainNames || !Pattern.isMagic field then [textOf field]
  else
    let paths := (matching p [""] (components field)).filter (fun path =>
      (p.locateNode path false).toOption.isSome)
    if paths.isEmpty then [textOf field] else paths.mergeSort (fun a b => decide (a ≤ b))

end Field

end BuoyGateway.Shell
