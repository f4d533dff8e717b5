/-!
# Scripts

What a script of the buoy says, once it has been read. A word is a list of pieces: what stands for
itself, and what is replaced when the word is used. All texts are texts of octets.
-/

namespace BuoyGateway.Shell

/-- How a file is opened. A file that is there may be kept from being written over; `replacing` does
that all the same. -/
inductive Opening
  | reading
  | writing
  | replacing
  | appending
  | both
  deriving DecidableEq, Repr

inductive Substitute
  | given
  | assigned
  | failure
  | alternative
  deriving DecidableEq, Repr

def Substitute.ofChar? : Char → Option Substitute
  | '-' => some .given
  | '=' => some .assigned
  | '?' => some .failure
  | '+' => some .alternative
  | _ => none

mutual

inductive Piece
  | literal (text : List Char)
  | quoted (text : List Char)
  | parameter (name : String) (use : Use) (quotes : Bool)
  | output (script : Script) (quotes : Bool)
  | arithmetic (expression : List Piece) (quotes : Bool)

inductive Use
  | value
  | size
  /-- Something else, where the parameter is not set; `empty` counts an empty value as none. -/
  | otherwise (empty : Bool) (substitute : Substitute) (word : List Piece)
  | without (atEnd longest : Bool) (pattern : List Piece)
  | bad

inductive Redirection
  | file (descriptor : Nat) (opening : Opening) (path : List Piece)
  | copy (descriptor : Nat) (source : List Piece)
  | document (descriptor : Nat) (text : List Piece)

inductive Script
  | simple (line : Nat) (assignments : List (String × List Piece)) (words : List (List Piece))
      (redirections : List Redirection)
  | pipeline (stages : List Script)
  | negation (body : Script)
  | both (first second : Script)
  | either (first second : Script)
  | sequence (steps : List Script)
  | background (line : Nat) (body : Script)
  | subshell (line : Nat) (body : Script)
  | redirected (line : Nat) (body : Script) (redirections : List Redirection)
  | conditional (test yes no : Script)
  | loop (whileFails : Bool) (test body : Script)
  | each (line : Nat) (name : String) (words : Option (List (List Piece))) (body : Script)
  | choice (line : Nat) (word : List Piece) (branches : List (List (List Piece) × Script))
  | define (name : String) (body : Script)

end

def Script.nothing : Script := .sequence []

def Script.isNothing : Script → Bool
  | .sequence [] => true
  | _ => false

def isNameStart (c : Char) : Bool := c.isAlpha || c == '_'

def isNamePart (c : Char) : Bool := c.isAlphanum || c == '_'

def isName (s : List Char) : Bool :=
  match s with
  | [] => false
  | c :: rest => isNameStart c && rest.all isNamePart

def nameAndValue (s : String) : String × Option String :=
  let name := s.toList.takeWhile (fun c => c != '=')
  (String.ofList name,
    if name.length < s.length then some (String.ofList (s.toList.drop (name.length + 1))) else none)

/-- An assignment that a word begins with: the name, and the value as far as it is in the first
piece. -/
def assignment? : List Piece → Option (String × List Piece)
  | .literal s :: rest =>
    let name := s.takeWhile (fun c => c != '=')
    match s.drop name.length with
    | _ :: value =>
      if isName name then
        some (String.ofList name, if value.isEmpty then rest else .literal value :: rest)
      else none
    | [] => none
  | _ => none

end BuoyGateway.Shell
