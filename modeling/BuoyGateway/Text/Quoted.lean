import BuoyGateway.Text.Unprintable
import BuoyGateway.Text.GraphemeExtend

/-!
# Quoted text

A text between double quotes, in a form that a person can read back: quotes and backslashes are
escaped, the common control characters have letters, and characters that are not printed by
themselves are shown by number. Messages about faulty input show texts this way.
-/

namespace BuoyGateway.Text

def hexDigits (n : Nat) : List Char := Nat.toDigits 16 n

def quotedChar (c : Char) : List Char :=
  match c with
  | '\x00' => ['\\', '0']
  | '\t' => ['\\', 't']
  | '\r' => ['\\', 'r']
  | '\n' => ['\\', 'n']
  | '"' => ['\\', '"']
  | '\\' => ['\\', '\\']
  | c =>
    if isGraphemeExtend c || isUnprintable c then
      ['\\', 'u', '\x7b'] ++ hexDigits c.toNat ++ ['\x7d']
    else [c]

def quoted (s : String) : String :=
  String.ofList ('"' :: s.toList.flatMap quotedChar ++ ['"'])

end BuoyGateway.Text
