import BuoyGateway.Shell.Rules.Value

/-!
# The words and signs of a program of rules

A slash begins a regular expression where a value may begin, and is a sign where one has just ended.
-/

namespace BuoyGateway.Shell.Rules

inductive Token
  | number (x : Float) (shown : List Char)
  | text (s : List Char)
  | pattern (s : List Char)
  | name (s : String)
  | function (s : String)
  | builtIn (s : String)
  | word (s : String)
  | sign (s : String)
  | newline
  | finish
  deriving Inhabited

structure Lexeme where
  token : Token
  line : Nat
  deriving Inhabited

namespace Token

def shown : Token → String
  | .number _ s | .text s => String.ofList s
  | .pattern s => "/" ++ String.ofList s ++ "/"
  | .name s | .function s | .builtIn s | .word s | .sign s => s
  | .newline => "end of line"
  | .finish => "end of file"

def endsValue : Token → Bool
  | .number .. | .text _ | .pattern _ | .name _ | .builtIn _ => true
  | .sign s => [")", "]", "++", "--"].contains s
  | _ => false

def isSign (t : Token) (s : String) : Bool :=
  match t with
  | .sign s' => s = s'
  | _ => false

def isWord (t : Token) (s : String) : Bool :=
  match t with
  | .word s' => s = s'
  | _ => false

def words : List String :=
  ["BEGIN", "END", "break", "continue", "delete", "do", "else", "exit", "for", "function",
   "getline", "if", "in", "next", "nextfile", "print", "printf", "return", "while"]

def builtIns : List String :=
  ["length", "index", "substr", "split", "sub", "gsub", "match", "sprintf", "tolower", "toupper",
   "sin", "cos", "atan2", "exp", "log", "sqrt", "int", "rand", "srand", "system", "close", "fflush"]

def signs : List String :=
  ["&&", "||", "++", "--", "+=", "-=", "*=", "/=", "%=", "^=", "==", "<=", ">=", "!=", "!~", ">>",
   "\x7b", "\x7d", "(", ")", "[", "]", ";", ",", "+", "-", "*", "/", "%", "^", "!", "<", ">", "|",
   "?", ":", "~", "$", "="]

def escaped? : Char → Option Char
  | '"' => some '"'
  | '\\' => some '\\'
  | 'a' => some '\x07'
  | 'b' => some '\x08'
  | 'f' => some '\x0c'
  | 'n' => some '\n'
  | 'r' => some '\r'
  | 't' => some '\t'
  | 'v' => some '\x0b'
  | _ => none

/-- A text in which backslashes have their meaning. Each step takes at least one character. -/
def unescaped : Nat → List Char → List Char
  | 0, s => s
  | fuel + 1, s =>
    match s with
    | '\\' :: '\n' :: rest => unescaped fuel rest
    | '\\' :: c :: rest =>
      if Format.isOctal c then
        let digits := ((c :: rest).take 3).takeWhile Format.isOctal
        Format.octet digits :: unescaped fuel ((c :: rest).drop digits.length)
      else
        let digits := (rest.take 2).takeWhile (fun d => (Arithmetic.digit? 16 d).isSome)
        if c = 'x' && !digits.isEmpty then
          Char.ofNat (Arithmetic.digits 16 0 digits).1 :: unescaped fuel (rest.drop digits.length)
        else
          match escaped? c with
          | some d => d :: unescaped fuel rest
          | none => '\\' :: c :: unescaped fuel rest
    | c :: rest => c :: unescaped fuel rest
    | [] => []

/-- The text up to a quote, and what follows that; nothing if no quote comes. -/
def quoted? : Nat → List Char → Option (List Char × List Char)
  | 0, _ => none
  | fuel + 1, s =>
    match s with
    | '"' :: rest => some ([], rest)
    | '\\' :: c :: rest => (quoted? fuel rest).map (fun r => ('\\' :: c :: r.1, r.2))
    | '\n' :: _ | [] => none
    | c :: rest => (quoted? fuel rest).map (fun r => (c :: r.1, r.2))

/-- The regular expression up to a slash that is not in brackets, and what follows that; nothing if
no slash comes. -/
def delimited? : Nat → Bool → List Char → Option (List Char × List Char)
  | 0, _, _ => none
  | fuel + 1, inBrackets, s =>
    let go (cs : List Char) (inBrackets : Bool) (rest : List Char) :
        Option (List Char × List Char) :=
      (delimited? fuel inBrackets rest).map (fun r => (cs ++ r.1, r.2))
    match s with
    | '\\' :: '/' :: rest => go ['/'] inBrackets rest
    | '\\' :: c :: rest => if c = '\n' then none else go ['\\', c] inBrackets rest
    | '[' :: '^' :: ']' :: rest => if inBrackets then none else go ['[', '^', ']'] true rest
    | '[' :: ']' :: rest =>
      if inBrackets then go ['[', ']'] false rest else go ['[', ']'] true rest
    | '[' :: ':' :: rest => if inBrackets then
        let name := rest.takeWhile (fun c => c != ']')
        go ('[' :: ':' :: name ++ [']']) true (rest.drop (name.length + 1))
      else go ['[', ':'] true rest
    | c :: rest =>
      if c = '\n' then none
      else if c = '/' && !inBrackets then some ([], rest)
      else if c = '[' then go ['['] true rest
      else if c = ']' then go [']'] false rest
      else go [c] inBrackets rest
    | [] => none

def shortened (s : List Char) : String :=
  String.ofList ((s.takeWhile (fun c => c != '\n')).take 10) ++ " ..."

def isNamePart (c : Char) : Bool := c.isAlphanum || c = '_'

def ofName (name : String) (rest : List Char) : Token :=
  if words.contains name then .word name
  else if builtIns.contains name then .builtIn name
  else if rest.head? = some '(' then .function name
  else .name name

/-- The token that a text begins with, which is no blank, and what follows it. -/
def read (line : Nat) (afterValue : Bool) (s : List Char) : Except String (Token × List Char) :=
  let wrong (text : String) : Except String (Token × List Char) :=
    .error ("line " ++ String.ofList (Decimal.digits line) ++ ": " ++ text)
  match s with
  | [] => .ok (.finish, [])
  | '"' :: rest =>
    match quoted? (rest.length + 1) rest with
    | some (inner, rest) => .ok (.text (unescaped (inner.length + 1) inner), rest)
    | none => wrong ("runaway string constant \"" ++ shortened rest)
  | c :: rest =>
    if c = '/' && !afterValue then
      match delimited? (rest.length + 1) false rest with
      | some (inner, rest) => .ok (.pattern inner, rest)
      | none => wrong ("runaway regular expression /" ++ shortened rest)
    else if c.isDigit || (c = '.' && (rest.head?.map Char.isDigit).getD false) then
      let (x, after) := numberAt s
      .ok (.number x (s.take (s.length - after.length)), after)
    else if c.isAlpha || c = '_' then
      let name := s.takeWhile isNamePart
      let rest := s.drop name.length
      .ok (ofName (String.ofList name) rest, rest)
    else
      match signs.find? (fun mark => mark.toList.isPrefixOf s) with
      | some mark => .ok (.sign mark, s.drop mark.length)
      | none =>
        .error (String.ofList (Decimal.digits line) ++ ": unexpected character '" ++
          String.singleton c ++ "'")

/-- All tokens of a text. Each step takes at least one character. -/
def readAll : Nat → Nat → Bool → List Char → Except String (List Lexeme)
  | 0, line, _, _ => .ok [⟨.newline, line⟩, ⟨.finish, line + 1⟩]
  | fuel + 1, line, afterValue, s =>
    match s with
    | [] => .ok [⟨.newline, line⟩, ⟨.finish, line + 1⟩]
    | '\\' :: '\n' :: rest => readAll fuel (line + 1) afterValue rest
    | '\n' :: rest => do
      let others ← readAll fuel (line + 1) false rest
      pure (⟨.newline, line⟩ :: others)
    | '#' :: rest => readAll fuel line afterValue (rest.dropWhile (fun c => c != '\n'))
    | c :: rest =>
      if c = ' ' || c = '\t' || c = '\r' then readAll fuel line afterValue rest
      else do
        let (token, rest) ← read line afterValue s
        let others ← readAll fuel line token.endsValue rest
        pure (⟨token, line⟩ :: others)

end Token

end BuoyGateway.Shell.Rules
