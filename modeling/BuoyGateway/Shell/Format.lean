import BuoyGateway.Decimal.Places
import BuoyGateway.Shell.Arithmetic

/-!
# Escapes and formats

What `echo` and `printf` write: the characters that backslashes stand for, and the directives of a
format, which is used again as long as arguments are left. `Dialect` holds what the command of the
shell and the utility of the same name do differently.
-/

namespace BuoyGateway.Shell.Format

/-! ### Escapes -/

def escaped? : Char → Option Char
  | 'a' => some '\x07'
  | 'b' => some '\x08'
  | 'e' => some '\x1b'
  | 'f' => some '\x0c'
  | 'n' => some '\n'
  | 'r' => some '\r'
  | 't' => some '\t'
  | 'v' => some '\x0b'
  | '\\' => some '\\'
  | _ => none

def isOctal (c : Char) : Bool := '0' ≤ c && c ≤ '7'

def octet (digits : List Char) : Char :=
  Char.ofNat (digits.foldl (fun n c => 8 * n + (c.toNat - 48)) 0 % 256)

structure Escapes where
  zeroFirst : Bool := false
  hexadecimal : Bool := false
  quotes : Bool := false

/-- What follows a backslash: the character it stands for, if it stands for one, and the text after
it. -/
def Escapes.read (e : Escapes) (s : List Char) : Option (Char × List Char) :=
  match s with
  | [] => none
  | c :: rest =>
    if isOctal c then
      let (front, s) := if e.zeroFirst && c = '0' then (['0'], rest) else ([], s)
      let digits := (s.take 3).takeWhile isOctal
      some (octet (front ++ digits), s.drop digits.length)
    else if e.hexadecimal && c = 'x' && (rest.head?.bind (Arithmetic.digit? 16)).isSome then
      let digits := (rest.take 2).takeWhile (fun d => (Arithmetic.digit? 16 d).isSome)
      some (Char.ofNat (Arithmetic.digits 16 0 digits).1, rest.drop digits.length)
    else if e.quotes && c = '"' then some ('"', rest)
    else (escaped? c).map (fun d => (d, rest))

/-- The text that an argument stands for, and whether it ends all output; each step takes at least
one character. -/
def Escapes.textFrom (e : Escapes) : Nat → List Char → List Char × Bool
  | 0, _ | _, [] => ([], false)
  | fuel + 1, '\\' :: s =>
    if s.head? = some 'c' then ([], true)
    else
      match e.read s with
      | some (c, rest) =>
        let (text, stop) := textFrom e fuel rest
        (c :: text, stop)
      | none =>
        let (text, stop) := textFrom e fuel s
        ('\\' :: text, stop)
  | fuel + 1, c :: s =>
    let (text, stop) := textFrom e fuel s
    (c :: text, stop)

/-- The text that an argument stands for, and whether it ends all output. -/
def Escapes.text (e : Escapes) (s : List Char) : List Char × Bool := e.textFrom s.length s

/-! ### Directives -/

structure Layout where
  left : Bool := false
  zeros : Bool := false
  plus : Bool := false
  blank : Bool := false
  alternate : Bool := false
  width : Nat := 0
  precision : Option Nat := none

namespace Layout

def pad (layout : Layout) (s : List Char) : List Char :=
  let fill := List.replicate (layout.width - s.length) ' '
  if layout.left then s ++ fill else fill ++ s

def fill (layout : Layout) (zeros : Bool) (sign digits : List Char) : List Char :=
  if zeros && !layout.left then sign ++ digits.leftpad (layout.width - sign.length) '0'
  else layout.pad (sign ++ digits)

def number (layout : Layout) (sign digits : List Char) : List Char :=
  let digits := match layout.precision with
    | some p => if p = 0 && digits = ['0'] then [] else digits.leftpad p '0'
    | none => digits
  layout.fill (layout.zeros && layout.precision.isNone) sign digits

def sign (layout : Layout) (negative : Bool) : List Char :=
  if negative then ['-'] else if layout.plus then ['+'] else if layout.blank then [' '] else []

end Layout

inductive Real
  | finite (negative : Bool) (magnitude : Decimal.Binary64)
  | infinite (negative : Bool)
  | notANumber
  deriving DecidableEq, Repr

def Real.read? (s : List Char) : Option (Real × List Char) :=
  let s := s.dropWhile Char.isWhitespace
  let (negative, s) := match s with
    | '-' :: rest => (true, rest)
    | '+' :: rest => (false, rest)
    | _ => (false, s)
  let startsWith (word : String) : Bool := word.toList.isPrefixOf (s.map Char.toLower)
  if startsWith "infinity" then some (.infinite negative, s.drop 8)
  else if startsWith "inf" then some (.infinite negative, s.drop 3)
  else if startsWith "nan" then some (.notANumber, s.drop 3)
  else
    let (hex, rest) := Arithmetic.numeral s
    if s.head? = some '0' && (s[1]?.map Char.toLower) = some 'x' && rest.length + 2 < s.length then
      some (.finite negative (Decimal.Binary64.ofNat hex), rest)
    else
      let whole := s.takeWhile Char.isDigit
      let s := s.drop whole.length
      let (fraction, s) := match s with
        | '.' :: rest =>
          let fraction := rest.takeWhile Char.isDigit
          if whole.isEmpty && fraction.isEmpty then ([], s)
          else (fraction, rest.drop fraction.length)
        | _ => ([], s)
      if whole.isEmpty && fraction.isEmpty then none
      else
        let (e, s) : Int × List Char := match s with
          | c :: rest =>
            let (sign, digits) := match rest with
              | '-' :: digits => (true, digits)
              | '+' :: digits => (false, digits)
              | _ => (false, rest)
            let ds := digits.takeWhile Char.isDigit
            if (c = 'e' || c = 'E') && !ds.isEmpty then
              let n : Int := Decimal.ofDigits ds
              (if sign then -n else n, digits.drop ds.length)
            else (0, s)
          | [] => (0, s)
        let shift := max (-5000) (min 5000 (e - fraction.length))
        let magnitude := Decimal.Binary64.nearest
          (Decimal.ofDigits (whole ++ fraction) * Nat.pow 10 shift.toNat)
          (Nat.pow 10 (-shift).toNat)
        some (if magnitude.isInfinite then .infinite negative else .finite negative magnitude, s)

def Layout.real (layout : Layout) (letter : Char) (x : Real) : List Char :=
  let upper := letter.isUpper
  let word (s : String) : List Char := if upper then s.toList.map Char.toUpper else s.toList
  let mark := if upper then 'E' else 'e'
  match x with
  | .notANumber => layout.pad (word "nan")
  | .infinite negative => layout.pad (layout.sign negative ++ word "inf")
  | .finite negative magnitude =>
    let (num, den) := magnitude.quotient
    let places := layout.precision.getD 6
    let digits :=
      match letter.toLower with
      | 'f' => Decimal.Places.fixed layout.alternate num den places
      | 'e' => Decimal.Places.scientific layout.alternate mark num den places
      | _ => Decimal.Places.general layout.alternate mark num den places
    layout.fill layout.zeros (layout.sign negative) digits

/-! ### Formats -/

/-- What the command of the shell and the utility of the same name do differently. -/
structure Dialect where
  format : Escapes
  argument : Escapes
  /-- What is said about an argument that is no number, or not only a number. -/
  noNumber : String → String
  notOnlyNumber : String → String

inductive Breach
  | directive (text : String)
  | unfinished
  deriving DecidableEq, Repr

/-- A progress of writing: the output so far and what is wrong, the latest first, the arguments that
are left, whether all is written, and what has broken the format. -/
structure Progress where
  reversed : List Char := []
  arguments : List (List Char)
  faults : List String := []
  stopped : Bool := false
  breach : Option Breach := none

namespace Progress

def write (p : Progress) (s : List Char) : Progress :=
  { p with reversed := s.reverse ++ p.reversed }

def next (p : Progress) : List Char × Progress :=
  match p.arguments with
  | [] => ([], p)
  | a :: rest => (a, { p with arguments := rest })

def converted (p : Progress) (d : Dialect) (a : List Char) (started tooLarge : Bool)
    (rest : List Char) : Progress :=
  let fault (s : String) : Progress := { p with faults := s :: p.faults }
  let text := String.ofList a
  if !rest.isEmpty then fault (if started then d.notOnlyNumber text else d.noNumber text)
  else if tooLarge then fault (text ++ ": Numerical result out of range")
  else p

def nextNumber (p : Progress) (d : Dialect) (least greatest : Int) : Int × Progress :=
  let (a, p) := p.next
  match a with
  | [] => (0, p)
  | '\'' :: c :: _ | '"' :: c :: _ => (c.toNat, p)
  | ['\''] | ['"'] => (0, p)
  | _ =>
    match Arithmetic.signed? a with
    | none => (0, p.converted d a false false a)
    | some (n, rest) =>
      let m := max least (min greatest n)
      (m, p.converted d a true (m != n) rest)

def nextReal (p : Progress) (d : Dialect) : Real × Progress :=
  let (a, p) := p.next
  let zero := Real.finite false Decimal.Binary64.zero
  match a with
  | [] => (zero, p)
  | '\'' :: c :: _ | '"' :: c :: _ => (.finite false (Decimal.Binary64.ofNat c.toNat), p)
  | _ =>
    match Real.read? a with
    | none => (zero, p.converted d a false false a)
    | some (x, rest) => (x, p.converted d a true false rest)

end Progress

def greatestUnsigned : Int := 18446744073709551615

def flags : Layout → List Char → Layout × List Char
  | layout, '-' :: s => flags { layout with left := true } s
  | layout, '0' :: s => flags { layout with zeros := true } s
  | layout, '+' :: s => flags { layout with plus := true } s
  | layout, ' ' :: s => flags { layout with blank := true } s
  | layout, '#' :: s => flags { layout with alternate := true } s
  | layout, s => (layout, s)

def amount (d : Dialect) (p : Progress) (s : List Char) : Int × Progress × List Char :=
  match s with
  | '*' :: rest =>
    let (n, p) := p.nextNumber d Arithmetic.smallest Arithmetic.largest
    (n, p, rest)
  | _ =>
    let digits := s.takeWhile Char.isDigit
    (Decimal.ofDigits digits, p, s.drop digits.length)

def layoutOf (d : Dialect) (p : Progress) (s : List Char) : Layout × Progress × List Char :=
  let (layout, s) := flags {} s
  let (width, p, s) := amount d p s
  let layout := { layout with width := width.natAbs, left := layout.left || width < 0 }
  match s with
  | '.' :: rest =>
    let (precision, p, s) := amount d p rest
    ({ layout with precision := if precision < 0 then none else some precision.toNat }, p, s)
  | _ => (layout, p, s)

/-- Writes a value as its directive says; nothing if the letter means no directive. -/
def directive? (d : Dialect) (p : Progress) (layout : Layout) (c : Char) : Option Progress :=
  let unsigned (base : Nat) (mark : List Char) (change : Char → Char) : Progress :=
    let (n, p) := p.nextNumber d (-greatestUnsigned) greatestUnsigned
    let m := (n % UInt64.size).toNat
    let mark := if layout.alternate && m != 0 then mark else []
    p.write (layout.number mark ((Nat.toDigits base m).map change))
  match c with
  | 's' =>
    let (a, p) := p.next
    some (p.write (layout.pad (match layout.precision with
      | some n => a.take n
      | none => a)))
  | 'b' =>
    let (a, p) := p.next
    let (text, stop) := d.argument.text a
    let text := match layout.precision with
      | some n => text.take n
      | none => text
    some { p.write (layout.pad text) with stopped := stop }
  | 'c' =>
    let (a, p) := p.next
    some (p.write (layout.pad (if a.isEmpty then ['\x00'] else a.take 1)))
  | 'd' | 'i' =>
    let (n, p) := p.nextNumber d Arithmetic.smallest Arithmetic.largest
    some (p.write (layout.number (layout.sign (n < 0)) (Decimal.digits n.natAbs)))
  | 'u' => some (unsigned 10 [] id)
  | 'o' => some (unsigned 8 ['0'] id)
  | 'x' => some (unsigned 16 ['0', 'x'] id)
  | 'X' => some (unsigned 16 ['0', 'X'] Char.toUpper)
  | 'e' | 'E' | 'f' | 'F' | 'g' | 'G' =>
    let (x, p) := p.nextReal d
    some (p.write (layout.real c x))
  | _ => none

def pass (d : Dialect) : Nat → Progress → List Char → Progress
  | 0, p, _ | _, p, [] => p
  | fuel + 1, p, '\\' :: s =>
    match d.format.read s with
    | some (c, rest) => pass d fuel (p.write [c]) rest
    | none => pass d fuel (p.write ['\\']) s
  | fuel + 1, p, '%' :: '%' :: s => pass d fuel (p.write ['%']) s
  | fuel + 1, p, '%' :: s =>
    let (layout, p, rest) := layoutOf d p s
    match rest with
    | [] => { p with breach := some .unfinished, stopped := true }
    | c :: rest =>
      match directive? d p layout c with
      | some p => if p.stopped then p else pass d fuel p rest
      | none =>
        let text := '%' :: s.take (s.length - rest.length)
        { p with breach := some (.directive (String.ofList text)), stopped := true }
  | fuel + 1, p, c :: s => pass d fuel (p.write [c]) s

def passes (d : Dialect) : Nat → Progress → List Char → Progress
  | 0, p, _ => p
  | fuel + 1, p, format =>
    let q := pass d format.length p format
    if q.stopped || q.arguments.isEmpty || q.arguments.length = p.arguments.length then q
    else passes d fuel q format

def printf (d : Dialect) (format : List Char) (arguments : List (List Char)) : Progress :=
  passes d (arguments.length + 1) { arguments } format

def ofShell : Dialect where
  format := {}
  argument := { zeroFirst := true }
  noNumber s := s ++ ": expected numeric value"
  notOnlyNumber s := s ++ ": not completely converted"

def ofUtility : Dialect where
  format := { hexadecimal := true, quotes := true }
  argument := { zeroFirst := true, hexadecimal := true, quotes := true }
  noNumber s := "'" ++ s ++ "': expected a numeric value"
  notOnlyNumber s := "'" ++ s ++ "': value not completely converted"

/-- What `echo` writes for some arguments: escapes have their meaning, and `-n` leaves out the end
of the line. -/
def echo (arguments : List (List Char)) : List Char :=
  let (whole, arguments) := match arguments with
    | ['-', 'n'] :: rest => (false, rest)
    | _ => (true, arguments)
  let (text, stop) := ofShell.argument.text (List.intercalate [' '] arguments)
  if whole && !stop then text ++ ['\n'] else text

end BuoyGateway.Shell.Format
