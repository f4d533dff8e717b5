import BuoyGateway.Shell.Script

/-!
# Texts that are being read

The text of a script that is left to read, and the line that it has come to. A name that stands for
another text is replaced while the text is read; it is not replaced again within that text.
Documents are taken out of the text below the line where they are mentioned.
-/

namespace BuoyGateway.Shell

inductive Direction
  | file (opening : Opening)
  | copy
  | document (tabs : Bool)
  deriving DecidableEq, Repr

inductive Token
  | finish
  | newline
  | semicolon
  | ampersand
  | both
  | either
  | pipe
  | opening
  | closing
  | branchEnd
  | keyword (s : String)
  | word (pieces : List Piece)
  | redirection (descriptor : Nat) (direction : Direction)

namespace Token

def name : Token → String
  | .finish => "end of file"
  | .newline => "newline"
  | .semicolon => "\";\""
  | .ampersand => "\"&\""
  | .both => "\"&&\""
  | .either => "\"||\""
  | .pipe => "\"|\""
  | .opening => "\"(\""
  | .closing => "\")\""
  | .branchEnd => "\";;\""
  | .keyword s => "\"" ++ s ++ "\""
  | .word _ => "word"
  | .redirection .. => "redirection"

/-- The text of a word that has nothing to be replaced and nothing that was quoted. -/
def plain? : List Piece → Option String
  | [] => some ""
  | .literal s :: rest => (plain? rest).map (fun t => String.ofList s ++ t)
  | _ => none

def closers : List String := ["then", "else", "elif", "fi", "do", "done", "esac", "\x7d"]

def endsList : Token → Bool
  | .finish | .closing | .branchEnd => true
  | .keyword s => closers.contains s
  | _ => false

/-- The pieces of a word, or of a word of the grammar that stands for itself. -/
def pieces : Token → List Piece
  | .word pieces => pieces
  | .keyword s => [.literal s.toList]
  | _ => []

def isKeyword (t : Token) (word : String) : Bool :=
  match t with
  | .keyword s => s == word
  | _ => false

end Token

/-- A text that stands in the place of a name: how much text follows it, and whether it ends with a
blank. -/
structure Replacement where
  name : String
  rest : Nat
  blank : Bool

/-- What a closing parenthesis may belong to: it closes another one, or ends the patterns of a
branch of a choice. -/
inductive Group
  | parenthesis
  | choice
  deriving DecidableEq, Repr

structure Source where
  text : List Char
  lastLine : Nat
  /-- Where documents were taken out: how much text follows that place, and how many lines they
  were. -/
  taken : List (Nat × Nat) := []
  /-- What is open since the innermost script began whose output is wanted, if there is one; the
  latest comes first. -/
  groups : Option (List Group) := none
  aliases : List (String × String) := []
  replaced : List Replacement := []
  returned : Option Token := none

structure Flaw where
  text : String
  line : Nat

abbrev Reading (α : Type) := StateT Source (Except Flaw) α

namespace Source

def ofText (aliases : List (String × String)) (text : List Char) : Source :=
  { text, aliases, lastLine := 1 + text.count '\n' }

def line (s : Source) : Nat :=
  let left := s.text.length
  s.taken.foldl (fun n t => if t.1 < left then n - t.2 else n) (s.lastLine - s.text.count '\n')

def enter (group : Group) (s : Source) : Source :=
  { s with groups := s.groups.map (fun open' => group :: open') }

def leave (s : Source) : Source := { s with groups := s.groups.map List.tail }

/-- The texts that stand in the place of names and were not read to their end. -/
def current (s : Source) : List Replacement :=
  if s.replaced.isEmpty then []
  else
    let left := s.text.length
    s.replaced.filter (fun r => r.rest ≤ left)

def replace (s : Source) (name : String) (text : List Char) : Source :=
  let blank := (text.getLast?.map (fun c => c = ' ' || c = '\t')).getD false
  { s with
    text := text ++ s.text
    lastLine := s.lastLine + text.count '\n'
    replaced := ⟨name, s.text.length, blank⟩ :: s.current }

end Source

namespace Reading

def text : Reading (List Char) := do pure (← get).text

def goOn (text : List Char) : Reading Unit := modify (fun s => { s with text })

/-- Goes on after a character that cannot stand where it does. The end of a line does not count as
one there. -/
def goPast (c : Char) : Reading Unit :=
  if c = '\n' then modify (fun s => { s with lastLine := s.lastLine - 1 }) else pure ()

def refuse {α : Type} (text : String) : Reading α := do
  let s ← get
  throw ⟨"Syntax error: " ++ text, s.line⟩

def unexpected {α : Type} (t : Token) (expected : Option String) : Reading α :=
  refuse (t.name ++ " unexpected" ++ (match expected with
    | some e => " (expecting " ++ e ++ ")"
    | none => ""))

def giveBack (t : Token) : Reading Unit := modify (fun s => { s with returned := some t })

end Reading

/-! ### Blanks and documents -/

def skipJoins : List Char → List Char
  | '\\' :: '\n' :: s => skipJoins s
  | s => s

def skipBlanks : List Char → List Char
  | '\\' :: '\n' :: s => skipBlanks s
  | c :: s =>
    if c = ' ' || c = '\t' then skipBlanks s
    else if c = '#' then s.dropWhile (fun d => d != '\n')
    else c :: s
  | [] => []

/-- The lines of a document up to the line that ends it, and what follows that line. A line that is
`joined` to the one before is a part of it; where backslashes have a meaning, they join lines, and
those at the front of a line are skipped. -/
def documentLines (tabs slashes : Bool) (stop : List Char) :
    Nat → Bool → List Char → List Char × List Char
  | 0, _, s => ([], s)
  | lines + 1, joined, s =>
    let s := if slashes && !joined then skipJoins s else s
    if s.isEmpty then ([], [])
    else
      let raw := s.takeWhile (fun c => c != '\n')
      let rest := s.drop (raw.length + 1)
      let line := if tabs && !joined then raw.dropWhile (fun c => c = '\t') else raw
      if line = stop && !joined then ([], rest)
      else if raw.length = s.length then (line, [])
      else
        let joins := slashes && (line.reverse.takeWhile (fun c => c = '\\')).length % 2 = 1
        let (body, rest) := documentLines tabs slashes stop lines joins rest
        (line ++ '\n' :: body, rest)

/-- A mark that ends a document, whether something in it was quoted, and the text after it; nothing
if a quote does not end. Each step takes at least one character. -/
def documentMark (isEnd : Char → Bool) : Nat → List Char → Option (List Char × Bool × List Char)
  | 0, s => some ([], false, s)
  | fuel + 1, s =>
    let quoted (text rest : List Char) : Option (List Char × Bool × List Char) :=
      (documentMark isEnd fuel rest).map (fun (mark, _, rest) => (text ++ mark, true, rest))
    match s with
    | [] => some ([], false, [])
    | '\\' :: '\n' :: rest => documentMark isEnd fuel rest
    | '\\' :: c :: rest => quoted [c] rest
    | '\'' :: rest =>
      let text := rest.takeWhile (fun c => c != '\'')
      match rest.drop text.length with
      | _ :: rest => quoted text rest
      | [] => none
    | '"' :: rest =>
      let text := rest.takeWhile (fun c => c != '"')
      match rest.drop text.length with
      | _ :: rest => quoted text rest
      | [] => none
    | c :: rest =>
      if isEnd c then some ([], false, s)
      else (documentMark isEnd fuel rest).map (fun (mark, q, rest) => (c :: mark, q, rest))

end BuoyGateway.Shell
