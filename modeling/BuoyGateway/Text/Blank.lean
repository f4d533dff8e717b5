/-!
# White space

The characters with the Unicode property White_Space. A command's argument is found by skipping
them and ends before the next one.
-/

namespace BuoyGateway.Text

/-- The character has the Unicode property White_Space. -/
def isBlank (c : Char) : Bool :=
  let n := c.toNat
  (9 ≤ n && n ≤ 13) || n == 0x20 || n == 0x85 || n == 0xA0 || n == 0x1680 ||
    (0x2000 ≤ n && n ≤ 0x200A) || n == 0x2028 || n == 0x2029 || n == 0x202F || n == 0x205F ||
    n == 0x3000

def skipBlanks (s : List Char) : List Char := s.dropWhile isBlank

/-- The first run of characters that are not blank, if there is one. -/
def firstWord? (s : List Char) : Option (List Char) :=
  match (skipBlanks s).takeWhile (fun c => !isBlank c) with
  | [] => none
  | word => some word

end BuoyGateway.Text
