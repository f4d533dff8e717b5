import BuoyGateway.Shell.Utility.Basic

/-!
# Octets as letters

Three octets are written as four letters and signs, each of which stands for six bits. A text that
does not fill its last three octets is filled up with a sign of its own.
-/

namespace BuoyGateway.Shell.Utility

namespace Encoding

def alphabet : List Char :=
  "ABCDEFGHIJKLMNOPQRSTUVWXYZabcdefghijklmnopqrstuvwxyz0123456789+/".toList

def letter (n : Nat) : Char := alphabet.getD (n % 64) 'A'

def bits? (c : Char) : Option Nat := alphabet.findIdx? (fun d => d = c)

def encode : List Char → List Char
  | a :: b :: c :: rest =>
    let n := (a.toNat * 256 + b.toNat) * 256 + c.toNat
    letter (n / 262144) :: letter (n / 4096) :: letter (n / 64) :: letter n :: encode rest
  | [a, b] =>
    let n := (a.toNat * 256 + b.toNat) * 256
    [letter (n / 262144), letter (n / 4096), letter (n / 64), '=']
  | [a] =>
    let n := a.toNat * 65536
    [letter (n / 262144), letter (n / 4096), '=', '=']
  | [] => []

/-- The octets of four letters or fewer, and whether nothing is wrong with those. -/
def decodeFour (s : List Char) : List Char × Bool :=
  let octet (n : Nat) : Char := Char.ofNat (n % 256)
  match s.map bits? with
  | [some a, some b, some c, some d] =>
    ([octet (4 * a + b / 16), octet (16 * b + c / 4), octet (64 * c + d)], true)
  | some a :: some b :: some c :: last =>
    ([octet (4 * a + b / 16), octet (16 * b + c / 4)], last.length = 1 && s[3]? = some '=')
  | some a :: some b :: _ => ([octet (4 * a + b / 16)], s.drop 2 = ['=', '='])
  | _ => ([], false)

/-- The octets of letters as far as nothing is wrong with those, and whether that is everywhere.
Each step takes four letters. -/
def decode : Nat → List Char → List Char × Bool
  | 0, _ => ([], true)
  | fuel + 1, s =>
    if s.isEmpty then ([], true)
    else
      let (front, good) := decodeFour (s.take 4)
      if !good then (front, false)
      else
        let (rest, good) := decode fuel (s.drop 4)
        (front ++ rest, good)

/-- A text in lines of at most so many characters. Each step takes at least one character. -/
def wrapped (width : Nat) : Nat → List Char → List Char
  | 0, _ => []
  | fuel + 1, s =>
    if s.isEmpty then [] else s.take width ++ '\n' :: wrapped width fuel (s.drop width)

end Encoding

def base64 : Utility := fun _ call =>
  withFlags call
    [{ letter := 'd', word := "decode" }, { letter := 'i', word := "ignore-garbage" },
     { letter := 'w', word := "wrap", taking := .argument }] true 1
    (fun given => do
      let width := match given.value? 'w' with
        | none => some 76
        | some s => nat? s
      match width, given.others with
      | none, _ =>
        fail call ("invalid wrap size: " ++ quote ((given.value? 'w').getD "")) 1
      | some _, _ :: extra :: _ => misuse call ("extra operand " ++ quote extra) 1
      | some width, others =>
        let path := others.headD "-"
        match ← readFile path with
        | .error .isDirectory => fail call "read error: Is a directory" 1
        | .error e => fail call (showName path ++ ": " ++ e.wording) 1
        | .ok text =>
          if given.has 'd' then
            let isKept (c : Char) : Bool :=
              if given.has 'i' then c = '=' || (Encoding.bits? c).isSome else c != '\n'
            let (octets, good) := Encoding.decode (text.length + 1) (text.filter isKept)
            if good then emit call octets 0
            else
              put octets
              fail call "invalid input" 1
          else
            let letters := Encoding.encode text
            emit call (if width = 0 then letters
              else Encoding.wrapped width (letters.length + 1) letters) 0)

end BuoyGateway.Shell.Utility
