import BuoyGateway.Text.Quoted
import BuoyGateway.Decimal.Numeral

/-!
# Written JSON

The values that the gateway writes, in a form without blanks and in one with a member per line.
In strings only quotes, backslashes and control characters below U+0020 are escaped.
-/

namespace BuoyGateway.Json

/-- A value to be written. Members keep their order. -/
inductive Value
  | string (s : String)
  | number (n : Nat)
  | list (items : List Value)
  | object (members : List (String × Value))

def escaped (c : Char) : List Char :=
  match c with
  | '"' => ['\\', '"']
  | '\\' => ['\\', '\\']
  | '\x08' => ['\\', 'b']
  | '\x0c' => ['\\', 'f']
  | '\n' => ['\\', 'n']
  | '\r' => ['\\', 'r']
  | '\t' => ['\\', 't']
  | c =>
    if c.toNat < 0x20 then ['\\', 'u'] ++ (Text.hexDigits c.toNat).leftpad 4 '0' else [c]

def writeString (s : String) : List Char := '"' :: s.toList.flatMap escaped ++ ['"']

mutual

def Value.compact : Value → List Char
  | .string s => writeString s
  | .number n => Decimal.digits n
  | .list items => '[' :: compactItems items ++ [']']
  | .object members => '\x7b' :: compactMembers members ++ ['\x7d']

def compactItems : List Value → List Char
  | [] => []
  | [v] => v.compact
  | v :: w :: rest => v.compact ++ ',' :: compactItems (w :: rest)

def compactMembers : List (String × Value) → List Char
  | [] => []
  | [(key, v)] => writeString key ++ ':' :: v.compact
  | (key, v) :: m :: rest =>
    writeString key ++ ':' :: v.compact ++ ',' :: compactMembers (m :: rest)

end

/-- A new line, indented by two blanks for each open bracket. -/
def newLine (depth : Nat) : List Char := '\n' :: List.replicate (2 * depth) ' '

mutual

/-- A value with one item or member per line, inside so many brackets. An empty list or object has
no line of its own. -/
def Value.prettyAt (depth : Nat) : Value → List Char
  | .string s => writeString s
  | .number n => Decimal.digits n
  | .list [] => ['[', ']']
  | .list (v :: rest) => '[' :: prettyItems (depth + 1) (v :: rest) ++ newLine depth ++ [']']
  | .object [] => ['\x7b', '\x7d']
  | .object (m :: rest) =>
    '\x7b' :: prettyMembers (depth + 1) (m :: rest) ++ newLine depth ++ ['\x7d']

def prettyItems (depth : Nat) : List Value → List Char
  | [] => []
  | [v] => newLine depth ++ v.prettyAt depth
  | v :: w :: rest => newLine depth ++ v.prettyAt depth ++ ',' :: prettyItems depth (w :: rest)

def prettyMembers (depth : Nat) : List (String × Value) → List Char
  | [] => []
  | [(key, v)] => newLine depth ++ writeString key ++ [':', ' '] ++ v.prettyAt depth
  | (key, v) :: m :: rest =>
    newLine depth ++ writeString key ++ [':', ' '] ++ v.prettyAt depth ++
      ',' :: prettyMembers depth (m :: rest)

end

def Value.pretty (v : Value) : List Char := v.prettyAt 0

end BuoyGateway.Json
