import BuoyGateway.Shell.Account
import BuoyGateway.Shell.Arithmetic
import BuoyGateway.Shell.Builtin.Basic
import BuoyGateway.Shell.Field

/-!
# Expansion of words

What the pieces of a word become when the word is used: values of parameters, results of
expressions, homes of users, and the output of scripts, which `capture` runs. Expansion may fail,
which says how the script goes on.
-/

namespace BuoyGateway.Shell

/-- A value that is being worked out, or how the script goes on because that has failed. -/
abbrev Expansion (α : Type) := ExceptT Flow (StateM Process) α

namespace Expansion

def giveUp {α : Type} (text : String) : Expansion α := do
  modify (fun p => { p.complain text with status := 2 })
  throw .failed

inductive Homes
  | none
  | front
  | colons
  deriving DecidableEq, Repr

structure Standing where
  fields : Bool := false
  inValue : Bool := false
  homes : Homes := .front

/-- The home of a user, the own one if no name is given. -/
def home? (p : Process) (user : String) : Option String :=
  if user = "" then p.value? "HOME" else (Account.named? user).map Account.home

def betweenColons (s : List Char) : List (List Char) :=
  s.foldr
    (fun c parts =>
      if c = ':' then [] :: parts
      else
        match parts with
        | part :: parts => (c :: part) :: parts
        | [] => [[c]])
    [[]]

/-- The atoms of a text that may begin with a tilde; `ended` says that a name which goes on to the
end of the text is whole there. -/
def atomsOfHome (p : Process) (inValue ended : Bool) (s : List Char) : List Atom :=
  match s with
  | '~' :: rest =>
    let user := rest.takeWhile (fun c => c != '/')
    let isWhole := ended || user.length < rest.length
    match if isWhole then home? p (String.ofList user) else none with
    | some home => .mark :: Field.ofText true false home.toList ++
        Field.ofText false inValue (rest.drop user.length)
    | none => Field.ofText false inValue s
  | _ => Field.ofText false inValue s

/-- The atoms of a text that stands for itself, at the start of its word or not. -/
def atomsOfText (p : Process) (standing : Standing) (start isLast : Bool) (s : List Char) :
    List Atom :=
  match standing.homes with
  | .none => Field.ofText false standing.inValue s
  | .front =>
    if start then atomsOfHome p standing.inValue isLast s
    else Field.ofText false standing.inValue s
  | .colons =>
    let colon := Atom.char ':' false standing.inValue
    match betweenColons s with
    | [] => []
    | first :: others =>
      let lead :=
        if start then atomsOfHome p standing.inValue (isLast || !others.isEmpty) first
        else Field.ofText false standing.inValue first
      let rec following : List (List Char) → List Atom
        | [] => []
        | part :: rest =>
          colon :: atomsOfHome p standing.inValue (isLast || !rest.isEmpty) part ++ following rest
      lead ++ following others

/-- The texts of a value. All arguments are texts of their own where fields are made, or one text
with the first separator between them. Arguments that were not quoted are one text as well while
nothing says what separates fields. -/
def textsOfValue (p : Process) (fields quotes : Bool) (name value : String) : List (List Char) :=
  let joined : List (List Char) :=
    let separator := (p.separators.head?.map String.singleton).getD ""
    [(String.intercalate separator p.arguments).toList]
  let apart := p.arguments.map String.toList
  match name, fields, quotes with
  | "@", true, true => apart
  | "@", true, false | "*", true, false => if (p.value? "IFS").isSome then apart else joined
  | "@", _, _ | "*", _, _ => joined
  | _, _, _ => [value.toList]

def atomsOfTexts (quotes : Bool) (texts : List (List Char)) : List Atom :=
  let field (s : List Char) : List Atom :=
    let atoms := Field.ofText quotes true s
    if quotes then .mark :: atoms else atoms
  ((texts.map field).intersperse [.next]).flatten

def atomsOfValue (p : Process) (fields quotes : Bool) (name value : String) : List Atom :=
  match textsOfValue p fields quotes name value with
  | [text] => if name = "@" && fields && quotes then atomsOfTexts quotes [text]
    else Field.ofText quotes true text
  | texts => atomsOfTexts quotes texts

def valueOf (name : String) (value : Option String) : Expansion String := do
  match value with
  | some v => pure v
  | none =>
    if (← get).has .needValues then giveUp (name ++ ": parameter not set") else pure ""

def result (text : List Char) : Expansion (List Char) := do
  let p ← get
  match Arithmetic.evaluate { value? := p.value?, isFixed := p.isFixed } text with
  | .error (.wrong e) => giveUp e
  | .error .overflow => throw (.killed Signal.arithmeticFault)
  | .ok (n, assigned) =>
    set (assigned.foldl (fun (p : Process) (a : String × Int) =>
      p.assign a.1 (Decimal.text a.2)) p)
    pure (Decimal.signed n)

def supply (name value : String) : Expansion Unit := do
  let p ← get
  if !isName name.toList then giveUp (name ++ ": bad variable name")
  else if p.isFixed name then giveUp (name ++ ": is read only")
  else set (p.assign name value)

variable (capture : Script → StateM Process (List Char))

mutual

def atoms (standing : Standing) (start : Bool) : List Piece → Expansion (List Atom)
  | [] => pure []
  | piece :: pieces => do
    let first ← pieceAtoms standing start pieces.isEmpty piece
    let rest ← atoms standing false pieces
    pure (first ++ rest)

def pieceAtoms (standing : Standing) (start isLast : Bool) : Piece → Expansion (List Atom)
  | .literal s => do pure (atomsOfText (← get) standing start isLast s)
  | .quoted s => pure (.mark :: Field.ofText true false s)
  | .output script quotes => do
    let text ← (capture script : StateM Process (List Char))
    match (← get).fatal? with
    | some s => throw (.killed s.signal)
    | none => pure (Field.ofText quotes true text)
  | .arithmetic expression quotes => do
    let text ← atoms {} false expression
    pure (Field.ofText quotes true (← result (Field.join text)))
  | .parameter _ .bad _ => giveUp "Bad substitution"
  | .parameter name .value quotes => do
    let p ← get
    let v ← valueOf name (p.parameter? name)
    pure (atomsOfValue p standing.fields quotes name v)
  | .parameter name .size quotes => do
    let p ← get
    let v ← valueOf name (p.parameter? name)
    let length := (textsOfValue p false quotes name v).flatten.length
    pure (Field.ofText quotes true (Decimal.digits length))
  | .parameter name (.without atEnd longest pattern) quotes => do
    let p ← get
    let value := p.parameter? name
    let v ← valueOf name value
    if value.isNone then pure (Field.ofText quotes true [])
    else
      let pattern ← atoms {} true pattern
      let pattern := Pattern.ofGlyphs (Field.glyphs pattern)
      let texts := textsOfValue p standing.fields quotes name v
      pure (atomsOfTexts quotes (pattern.without atEnd longest texts))
  | .parameter name (.otherwise empty substitute word) quotes => do
    let p ← get
    let value := p.parameter? name
    let isMissing := match value with
      | none => true
      | some v => empty && v == ""
    let inside : Standing := { standing with inValue := !quotes, homes := .front }
    match substitute, isMissing with
    | .alternative, true => pure []
    | .alternative, false => atoms inside true word
    | _, false => pure (atomsOfValue p standing.fields quotes name (value.getD ""))
    | .given, true => atoms inside true word
    | .assigned, true =>
      let text ← atoms {} true word
      let v := String.ofList (Field.join text)
      supply name v
      pure (atomsOfValue (← get) standing.fields quotes name v)
    | .failure, true =>
      let text ← atoms {} true word
      let said :=
        if !word.isEmpty then String.ofList (Field.join text)
        else if empty then "parameter not set or null"
        else "parameter not set"
      giveUp (name ++ ": " ++ said)

end

def text (homes : Homes) (word : List Piece) : Expansion String := do
  let parts ← atoms capture { homes } true word
  pure (String.ofList (Field.join parts))

def fields (word : List Piece) : Expansion (List String) := do
  let parts ← atoms capture { fields := true } true word
  let p ← get
  pure ((Field.split p.separators parts).flatMap (Field.expand p))

def allFields : List (List Piece) → Expansion (List String)
  | [] => pure []
  | word :: words => do
    let first ← fields capture word
    let rest ← allFields words
    pure (first ++ rest)

end Expansion

end BuoyGateway.Shell
