import BuoyGateway.Shell.Utility.Basic

/-!
# Digests

A digest is a number that is worked out from all octets of a text. The octets are taken in blocks of
sixteen words; what the digest is so far is mixed with each block in turn.
-/

namespace BuoyGateway.Shell.Utility

namespace Digest

def turned (x n : UInt32) : UInt32 := (x <<< n) ||| (x >>> (32 - n))

def octetsOf : Nat → Nat → List Nat
  | 0, _ => []
  | n + 1, x => x % 256 :: octetsOf n (x / 256)

def wordOf (lowFirst : Bool) (octets : List Nat) : UInt32 :=
  UInt32.ofNat ((if lowFirst then octets.reverse else octets).foldl (fun n o => 256 * n + o) 0)

/-- The blocks of a text, filled up with a mark, zeros and the length of the text in bits. -/
def blocksOf (lowFirst : Bool) (octets : List Nat) : List (List UInt32) :=
  let length := octetsOf 8 (8 * octets.length)
  let zeros := List.replicate ((119 - octets.length % 64) % 64) 0
  let all := octets ++ 128 :: zeros ++ (if lowFirst then length else length.reverse)
  let rec words : Nat → List Nat → List UInt32
    | 0, _ => []
    | n + 1, s => wordOf lowFirst (s.take 4) :: words n (s.drop 4)
  let rec blocks : Nat → List Nat → List (List UInt32)
    | 0, _ => []
    | n + 1, s => words 16 s :: blocks n (s.drop 64)
  blocks (all.length / 64) all

/-- A digest: what it is before any block, and how it is mixed with one. -/
structure Method where
  lowFirst : Bool
  start : List UInt32
  mix : List UInt32 → List UInt32 → List UInt32

def Method.text (method : Method) (octets : List Nat) : String :=
  let step (state block : List UInt32) : List UInt32 :=
    (state.zip (method.mix state block)).map (fun e => e.1 + e.2)
  let state := (blocksOf method.lowFirst octets).foldl step method.start
  let shown (x : UInt32) : List Char :=
    let octets := octetsOf 4 x.toNat
    (if method.lowFirst then octets else octets.reverse).flatMap
      (fun o => (Nat.toDigits 16 o).leftpad 2 '0')
  String.ofList (state.flatMap shown)

/-! ### Three methods -/

def sines : List UInt32 :=
  [0xd76aa478, 0xe8c7b756, 0x242070db, 0xc1bdceee, 0xf57c0faf, 0x4787c62a,
   0xa8304613, 0xfd469501, 0x698098d8, 0x8b44f7af, 0xffff5bb1, 0x895cd7be,
   0x6b901122, 0xfd987193, 0xa679438e, 0x49b40821, 0xf61e2562, 0xc040b340,
   0x265e5a51, 0xe9b6c7aa, 0xd62f105d, 0x02441453, 0xd8a1e681, 0xe7d3fbc8,
   0x21e1cde6, 0xc33707d6, 0xf4d50d87, 0x455a14ed, 0xa9e3e905, 0xfcefa3f8,
   0x676f02d9, 0x8d2a4c8a, 0xfffa3942, 0x8771f681, 0x6d9d6122, 0xfde5380c,
   0xa4beea44, 0x4bdecfa9, 0xf6bb4b60, 0xbebfbc70, 0x289b7ec6, 0xeaa127fa,
   0xd4ef3085, 0x04881d05, 0xd9d4d039, 0xe6db99e5, 0x1fa27cf8, 0xc4ac5665,
   0xf4292244, 0x432aff97, 0xab9423a7, 0xfc93a039, 0x655b59c3, 0x8f0ccc92,
   0xffeff47d, 0x85845dd1, 0x6fa87e4f, 0xfe2ce6e0, 0xa3014314, 0x4e0811a1,
   0xf7537e82, 0xbd3af235, 0x2ad7d2bb, 0xeb86d391]

def turns : List (List UInt32) :=
  [[7, 12, 17, 22], [5, 9, 14, 20], [4, 11, 16, 23], [6, 10, 15, 21]]

def four : Method where
  lowFirst := true
  start := [0x67452301, 0xefcdab89, 0x98badcfe, 0x10325476]
  mix := fun state block =>
    let step (s : List UInt32) (e : UInt32 × Nat) : List UInt32 :=
      match s with
      | [a, b, c, d] =>
        let i := e.2
        let (f, place) := match i / 16 with
          | 0 => ((b &&& c) ||| (~~~b &&& d), i)
          | 1 => ((d &&& b) ||| (~~~d &&& c), 5 * i + 1)
          | 2 => (b ^^^ c ^^^ d, 3 * i + 5)
          | _ => (c ^^^ (b ||| ~~~d), 7 * i)
        let sum := a + f + e.1 + block.getD (place % 16) 0
        [d, b + turned sum ((turns.getD (i / 16) []).getD (i % 4) 0), b, c]
      | s => s
    sines.zipIdx.foldl step state

/-- The words that the rounds of a method take from a block: later ones are made of earlier ones.
The latest word comes first in `done`. -/
def extended (make : List UInt32 → UInt32) : Nat → List UInt32 → List UInt32
  | 0, done => done.reverse
  | n + 1, done => extended make n (make done :: done)

def five : Method where
  lowFirst := false
  start := [0x67452301, 0xefcdab89, 0x98badcfe, 0x10325476, 0xc3d2e1f0]
  mix := fun state block =>
    let make (done : List UInt32) : UInt32 :=
      turned (done.getD 2 0 ^^^ done.getD 7 0 ^^^ done.getD 13 0 ^^^ done.getD 15 0) 1
    let step (s : List UInt32) (e : UInt32 × Nat) : List UInt32 :=
      match s with
      | [a, b, c, d, x] =>
        let (f, k) : UInt32 × UInt32 := match e.2 / 20 with
          | 0 => ((b &&& c) ||| (~~~b &&& d), 0x5a827999)
          | 1 => (b ^^^ c ^^^ d, 0x6ed9eba1)
          | 2 => ((b &&& c) ||| (b &&& d) ||| (c &&& d), 0x8f1bbcdc)
          | _ => (b ^^^ c ^^^ d, 0xca62c1d6)
        [turned a 5 + f + x + k + e.1, a, turned b 30, c, d]
      | s => s
    (extended make 64 block.reverse).zipIdx.foldl step state

/-- What is added in the rounds of the third method: the fractions of cube roots of primes. -/
def cubeRoots : List UInt32 :=
  [0x428a2f98, 0x71374491, 0xb5c0fbcf, 0xe9b5dba5, 0x3956c25b, 0x59f111f1,
   0x923f82a4, 0xab1c5ed5, 0xd807aa98, 0x12835b01, 0x243185be, 0x550c7dc3,
   0x72be5d74, 0x80deb1fe, 0x9bdc06a7, 0xc19bf174, 0xe49b69c1, 0xefbe4786,
   0x0fc19dc6, 0x240ca1cc, 0x2de92c6f, 0x4a7484aa, 0x5cb0a9dc, 0x76f988da,
   0x983e5152, 0xa831c66d, 0xb00327c8, 0xbf597fc7, 0xc6e00bf3, 0xd5a79147,
   0x06ca6351, 0x14292967, 0x27b70a85, 0x2e1b2138, 0x4d2c6dfc, 0x53380d13,
   0x650a7354, 0x766a0abb, 0x81c2c92e, 0x92722c85, 0xa2bfe8a1, 0xa81a664b,
   0xc24b8b70, 0xc76c51a3, 0xd192e819, 0xd6990624, 0xf40e3585, 0x106aa070,
   0x19a4c116, 0x1e376c08, 0x2748774c, 0x34b0bcb5, 0x391c0cb3, 0x4ed8aa4a,
   0x5b9cca4f, 0x682e6ff3, 0x748f82ee, 0x78a5636f, 0x84c87814, 0x8cc70208,
   0x90befffa, 0xa4506ceb, 0xbef9a3f7, 0xc67178f2]

def eight : Method where
  lowFirst := false
  start :=
    [0x6a09e667, 0xbb67ae85, 0x3c6ef372, 0xa54ff53a, 0x510e527f, 0x9b05688c,
     0x1f83d9ab, 0x5be0cd19]
  mix := fun state block =>
    let right (x n : UInt32) : UInt32 := turned x (32 - n)
    let make (done : List UInt32) : UInt32 :=
      let x := done.getD 14 0
      let y := done.getD 1 0
      done.getD 15 0 + (right x 7 ^^^ right x 18 ^^^ (x >>> 3)) + done.getD 6 0 +
        (right y 17 ^^^ right y 19 ^^^ (y >>> 10))
    let step (s : List UInt32) (e : UInt32 × UInt32) : List UInt32 :=
      match s with
      | [a, b, c, d, x, y, z, h] =>
        let first := h + (right x 6 ^^^ right x 11 ^^^ right x 25) +
          ((x &&& y) ^^^ (~~~x &&& z)) + e.1 + e.2
        let second := (right a 2 ^^^ right a 13 ^^^ right a 22) +
          ((a &&& b) ^^^ (a &&& c) ^^^ (b &&& c))
        [first + second, a, b, c, d + first, x, y, z]
      | s => s
    ((extended make 48 block.reverse).zip cubeRoots).foldl step state

end Digest

/-! ### Utilities -/

/-- What is said about a file whose digest is asked for and that cannot be read. -/
def digestFault (call : Call) (path : String) (e : SystemError) : StateM Process Unit :=
  complain call (showName path ++ ": " ++ e.wording)

def checkDigests (call : Call) (method : Digest.Method) (paths : List String)
    (quiet silent : Bool) : StateM Process Outcome := do
  let check (acc : Nat × Nat) (row : List Char) : StateM Process (Nat × Nat) := do
    let digest := row.takeWhile (fun c => c != ' ')
    let path := String.ofList (row.drop (digest.length + 2))
    match ← readFile path with
    | .error e =>
      digestFault call path e
      if !silent then put (path ++ ": FAILED open or read\n").toList
      pure (acc.1, acc.2 + 1)
    | .ok text =>
      if method.text (text.map Char.toNat) = String.ofList (digest.map Char.toLower) then
        if !quiet && !silent then put (path ++ ": OK\n").toList
        pure acc
      else
        if !silent then put (path ++ ": FAILED\n").toList
        pure (acc.1 + 1, acc.2)
  let (texts, isWhole) ← readAll paths (digestFault call)
  let all := texts.flatMap (fun t => lines t.2)
  let (failed, unread) ← all.foldlM check (0, 0)
  let several (n : Nat) (one more : String) : String :=
    numeral n ++ " " ++ (if n = 1 then one else more)
  if 0 < unread && !silent then
    complain call ("WARNING: " ++
      several unread "listed file could not be read" "listed files could not be read")
  if 0 < failed && !silent then
    complain call ("WARNING: " ++
      several failed "computed checksum did NOT match" "computed checksums did NOT match")
  exited (if isWhole && failed = 0 && unread = 0 then 0 else 1)

def digests (title : String) (method : Digest.Method) : Utility := fun _ call =>
  withFlags call
    [{ letter := 'b', word := "binary" }, { letter := 't', word := "text" },
     { letter := 'c', word := "check" }, { letter := 'z', word := "zero" },
     { letter := 'w', word := "warn" },
     { letter := 'T', word := "tag", isShort := false },
     { letter := 'Q', word := "quiet", isShort := false },
     { letter := 'S', word := "status", isShort := false }] true 1
    (fun given => do
      let paths := orInput given.others
      if given.has 'c' then checkDigests call method paths (given.has 'Q') (given.has 'S')
      else
        let stop := if given.has 'z' then "\x00" else "\n"
        let (texts, isWhole) ← readAll paths (digestFault call)
        let row (t : String × List Char) : List Char :=
          let digest := method.text (t.2.map Char.toNat)
          (if given.has 'T' then title ++ " (" ++ t.1 ++ ") = " ++ digest ++ stop
          else digest ++ (if given.has 'b' then " *" else "  ") ++ t.1 ++ stop).toList
        emit call (texts.flatMap row) (if isWhole then 0 else 1))

/-- The remainder of octets, and then of their number, after a division of polynomials. -/
def remainderOf (octets : List Nat) : UInt32 :=
  let rec lengthOctets : Nat → Nat → List Nat
    | 0, _ => []
    | fuel + 1, n => if n = 0 then [] else n % 256 :: lengthOctets fuel (n / 256)
  let bit (r : UInt32) (_ : Nat) : UInt32 :=
    if r &&& 0x80000000 != 0 then (r <<< 1) ^^^ 0x04c11db7 else r <<< 1
  let step (r : UInt32) (o : Nat) : UInt32 :=
    (List.range 8).foldl bit (r ^^^ (UInt32.ofNat o <<< 24))
  ~~~((octets ++ lengthOctets 16 octets.length).foldl step 0)

def cksum : Utility := fun _ call =>
  withFlags call [] true 1 (fun given => do
    let (texts, isWhole) ← readAll (orInput given.others) (digestFault call)
    let row (t : String × List Char) : List Char :=
      let octets := t.2.map Char.toNat
      (numeral (remainderOf octets).toNat ++ " " ++ numeral octets.length ++
        (if given.others.isEmpty then "" else " " ++ t.1) ++ "\n").toList
    emit call (texts.flatMap row) (if isWhole then 0 else 1))

end BuoyGateway.Shell.Utility
