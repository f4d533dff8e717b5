/-!
# UTF-8

Octets and the characters they spell. `pieces` reads octets one at a time and marks each maximal
run that begins a character but does not complete one, and each octet that begins none, by `none`.
`decode?` refuses octets with such a mark; `decodeLossy` puts the replacement character in its
place.
-/

namespace BuoyGateway.Text

/-- Where a reader of UTF-8 stands: between characters, or inside one. Inside, `value` holds the
bits so far, the next octet has to lie between `low` and `high`, and `more` follow it. -/
inductive Utf8State
  | between
  | inside (value : Nat) (low high : UInt8) (more : Nat)
  deriving DecidableEq, Repr

/-- The state after a first octet: a whole character, the start of one, or neither. Shortest forms
only: no overlong form, no surrogate, nothing above U+10FFFF. -/
def Utf8State.first (b : UInt8) : Option (Except Char Utf8State) :=
  let n := b.toNat
  if n < 0x80 then some (.error (Char.ofNat n))
  else if n < 0xC2 then none
  else if n < 0xE0 then some (.ok (.inside (n - 0xC0) 0x80 0xBF 0))
  else if n = 0xE0 then some (.ok (.inside 0 0xA0 0xBF 1))
  else if n = 0xED then some (.ok (.inside 0xD 0x80 0x9F 1))
  else if n < 0xF0 then some (.ok (.inside (n - 0xE0) 0x80 0xBF 1))
  else if n = 0xF0 then some (.ok (.inside 0 0x90 0xBF 2))
  else if n < 0xF4 then some (.ok (.inside (n - 0xF0) 0x80 0xBF 2))
  else if n = 0xF4 then some (.ok (.inside 4 0x80 0x8F 2))
  else none

/-- What an octet read between characters adds, and the state after it. -/
def Utf8State.begin (b : UInt8) : List (Option Char) × Utf8State :=
  match Utf8State.first b with
  | none => ([none], .between)
  | some (.error c) => ([some c], .between)
  | some (.ok state) => ([], state)

def Utf8State.step : Utf8State → UInt8 → List (Option Char) × Utf8State
  | .between, b => Utf8State.begin b
  | .inside value low high more, b =>
    if low ≤ b && b ≤ high then
      let value := 64 * value + (b.toNat - 0x80)
      match more with
      | 0 => ([some (Char.ofNat value)], .between)
      | more + 1 => ([], .inside value 0x80 0xBF more)
    else
      let (added, state) := Utf8State.begin b
      (none :: added, state)

/-- The characters that the octets spell from a state on, `none` for each ill-formed run. -/
def pieces : Utf8State → List UInt8 → List (Option Char)
  | .between, [] => []
  | .inside .., [] => [none]
  | state, b :: rest => (state.step b).1 ++ pieces (state.step b).2 rest

/-- The characters that octets spell, if they are well formed. -/
def decode? (octets : List UInt8) : Option (List Char) := (pieces .between octets).mapM id

def replacement : Char := '\uFFFD'

/-- The characters that octets spell, ill-formed runs replaced. -/
def decodeLossy (octets : List UInt8) : List Char :=
  (pieces .between octets).map (fun piece => piece.getD replacement)

def encode (s : List Char) : List UInt8 := s.flatMap String.utf8EncodeChar

end BuoyGateway.Text
