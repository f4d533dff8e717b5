/-!
# Decimal numerals

Natural numbers and integers written in decimal, and the value of a run of digits. `ofDigits`
takes any length: nothing wraps.
-/

namespace BuoyGateway.Decimal

def digitValue (c : Char) : Nat := c.toNat - '0'.toNat

/-- The number that a run of digits, most significant first, stands for. -/
def ofDigits (s : List Char) : Nat := s.foldl (fun n c => 10 * n + digitValue c) 0

/-- The digits of a number, without leading zeros. -/
def digits (n : Nat) : List Char := Nat.toDigits 10 n

/-- The digits of a number, with zeros in front up to `width`. -/
def padded (width n : Nat) : List Char := (digits n).leftpad width '0'

def signed : Int → List Char
  | .ofNat n => digits n
  | .negSucc n => '-' :: digits (n + 1)

def text (n : Int) : String := String.ofList (signed n)

end BuoyGateway.Decimal
