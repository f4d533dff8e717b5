import BuoyGateway.Shell.Rules.Basic

/-!
# Values of a program of rules

A value is a number or a text. A text that was read counts as a number where it looks like one, and
a value that nothing was put in is both zero and empty.
-/

namespace BuoyGateway.Shell.Rules

/-! ### Numbers -/

def ofReal : Format.Real → Float
  | .notANumber => 0.0 / 0.0
  | .infinite negative => if negative then -1.0 / 0.0 else 1.0 / 0.0
  | .finite negative x =>
    let y := (Float.ofNat x.mantissa).scaleB x.exponent
    if negative then -y else y

/-- What a number is: its bits are a sign, eleven of an exponent and those of a mantissa. -/
def toReal (x : Float) : Format.Real :=
  let bits := x.toBits.toNat
  let negative := bits / 9223372036854775808 = 1
  let exponent := bits / Decimal.Binary64.leastNormal % 2048
  let mantissa := bits % Decimal.Binary64.leastNormal
  if exponent = 2047 then if mantissa = 0 then .infinite negative else .notANumber
  else if exponent = 0 then .finite negative ⟨mantissa, Decimal.Binary64.leastExponent⟩
  else .finite negative ⟨mantissa + Decimal.Binary64.leastNormal, exponent - 1075⟩

def whole? (x : Float) : Option Int :=
  match toReal x with
  | .finite negative m =>
    let (num, den) := m.quotient
    let n : Int := num / den
    some (if negative then -n else n)
  | _ => none

def whole (x : Float) : Float :=
  match toReal x with
  | .finite negative m =>
    let (num, den) := m.quotient
    ofReal (.finite negative (Decimal.Binary64.ofNat (num / den)))
  | _ => x

def mostWhole : Int := 9223372036854775807

/-- A number as a whole one with a sign, as near as there is one. -/
def signedWhole (x : Float) : Int :=
  match whole? x with
  | some n => max (-mostWhole) (min mostWhole n)
  | none => if x < 0.0 then -mostWhole else if 0.0 < x then mostWhole else -mostWhole - 1

/-- A number as a whole one without a sign; those below zero count from the other end. -/
def unsignedWhole (x : Float) : Nat :=
  match whole? x with
  | some n =>
    if n < 0 then ((max (-mostWhole) n) % (Format.greatestUnsigned + 1)).toNat
    else (min n Format.greatestUnsigned).toNat
  | none => if x < 0.0 then 9223372036854775809 else Format.greatestUnsigned.toNat

/-- What is left of a number after a division, with the sign of the number. -/
def modulo (x y : Float) : Float :=
  match toReal x, toReal y with
  | .finite negative a, .finite _ b =>
    if b.mantissa = 0 then 0.0 / 0.0
    else
      let (an, ad) := a.quotient
      let (bn, bd) := b.quotient
      ofReal (.finite negative (Decimal.Binary64.nearest ((an * bd) % (bn * ad)) (ad * bd)))
  | .finite .., .infinite _ => x
  | _, _ => 0.0 / 0.0

def Reckoning.apply : Reckoning → Float → Float → Float
  | .add, x, y => x + y
  | .subtract, x, y => x - y
  | .multiply, x, y => x * y
  | .divide, x, y => x / y
  | .remainder, x, y => modulo x y
  | .power, x, y => x.pow y

/-! ### Numbers in texts -/

/-- The decimal without a sign that a text begins with, which may be none. -/
def decimalFront (s : List Char) : List Char :=
  let whole := s.takeWhile Char.isDigit
  let fraction := match s.drop whole.length with
    | '.' :: rest => '.' :: rest.takeWhile Char.isDigit
    | _ => []
  let front := whole ++ fraction
  if front.all (fun c => c = '.') then []
  else
    match s.drop front.length with
    | e :: rest =>
      let sign := (rest.take 1).takeWhile (fun c => c = '+' || c = '-')
      let digits := (rest.drop sign.length).takeWhile Char.isDigit
      if (e = 'e' || e = 'E') && !digits.isEmpty then front ++ e :: sign ++ digits else front
    | [] => front

def numberAt (s : List Char) : Float × List Char :=
  let front := decimalFront s
  let x := match Format.Real.read? front with
    | some (x, _) => ofReal x
    | none => 0.0
  (x, s.drop front.length)

def isGap (c : Char) : Bool := c = ' ' || c = '\t' || c = '\n'

def looksNumeric (s : List Char) : Bool :=
  let s := s.dropWhile isGap
  let s := match s with
    | '-' :: rest | '+' :: rest => rest
    | _ => s
  let front := decimalFront s
  !front.isEmpty && (s.drop front.length).all isGap

def numberOf (s : List Char) : Float :=
  match Format.Real.read? s with
  | some (x, _) => ofReal x
  | none => 0.0

/-! ### Values -/

inductive Value
  | missing
  | number (x : Float)
  | text (s : List Char)
  | input (s : List Char)
  deriving Inhabited

def Value.ofBool (b : Bool) : Value := .number (if b then 1.0 else 0.0)

def Value.ofNat (n : Nat) : Value := .number (Float.ofNat n)

def Value.toNumber : Value → Float
  | .missing => 0.0
  | .number x => x
  | .text s | .input s => numberOf s

def Value.isTrue : Value → Bool
  | .missing => false
  | .number x => x != 0.0
  | .text s => !s.isEmpty
  | .input s => if looksNumeric s then numberOf s != 0.0 else !s.isEmpty

def Value.number? : Value → Option Float
  | .missing => some 0.0
  | .number x => some x
  | .text _ => none
  | .input s => if looksNumeric s then some (numberOf s) else none

/-- The digits of a number, if it is a whole one that they can spell. -/
def wholeText? (x : Float) : Option (List Char) := do
  let n ← whole? x
  let n := min n Format.greatestUnsigned
  if -mostWhole - 1 ≤ n && Float.ofInt n == x then some (Decimal.signed n) else none

/-! ### Texts that follow a format -/

/-- Why a text cannot be put together: too few values, or a directive that there is none of. -/
inductive FormatFault
  | tooFew
  | improper (n : Nat)
  deriving DecidableEq, Repr

/-- The width or precision at the front of a text, the values that are left, and what follows it. -/
def amountAt (s : List Char) (values : List Value) :
    Option (Option Int × List Value × List Char) :=
  match s with
  | '*' :: rest =>
    match values with
    | v :: values => some (some (signedWhole v.toNumber), values, rest)
    | [] => none
  | _ =>
    let digits := s.takeWhile Char.isDigit
    some (if digits.isEmpty then none else some (Decimal.ofDigits digits), values,
      s.drop digits.length)

def shownReal (layout : Format.Layout) (letter : Char) (x : Float) : List Char :=
  match toReal x with
  | .notANumber => layout.pad (if letter.isUpper then "-NAN".toList else "-nan".toList)
  | r => { layout with zeros := layout.zeros && (whole? x).isSome }.real letter r

/-- A value as a directive says, where its text is `text`; nothing if there is no such directive. -/
def shownValue? (layout : Format.Layout) (isLong : Bool) (letter : Char) (text : List Char)
    (v : Value) : Option (List Char) :=
  let unsigned (n base : Nat) (mark : List Char) (change : Char → Char) : List Char :=
    layout.number (if layout.alternate && n != 0 then mark else [])
      ((Nat.toDigits base n).map change)
  let x := v.toNumber
  match letter with
  | 'd' | 'i' =>
    let isGreat : Bool := match whole? x with
      | some n => decide (mostWhole < n)
      | none => 0.0 < x
    let n : Int := if isGreat then unsignedWhole x else signedWhole x
    some (layout.number (layout.sign (n < 0)) (Decimal.digits n.natAbs))
  | 'u' => some (unsigned (unsignedWhole x) 10 [] (fun c => c))
  | 'o' => some (unsigned (unsignedWhole x) 8 ['0'] (fun c => c))
  | 'x' => some (unsigned (unsignedWhole x) 16 ['0', 'x'] (fun c => c))
  | 'X' => some (unsigned (unsignedWhole x) 16 ['0', 'X'] Char.toUpper)
  | 's' =>
    if isLong then none
    else some (layout.pad (match layout.precision with
      | some n => text.take n
      | none => text))
  | 'c' =>
    if isLong then none
    else
      let isNumber : Bool := match v with
        | .text s | .input s => looksNumeric s
        | _ => true
      let one := if isNumber then [Char.ofNat (((whole? x).getD 0) % 256).toNat]
        else if text.isEmpty then ['\x00'] else text.take 1
      some (layout.pad one)
  | 'e' | 'E' | 'f' | 'F' | 'g' | 'G' => if isLong then none else some (shownReal layout letter x)
  | _ => none

/-- A text that follows a format, where `text` is what a value looks like, as far as it goes, and
why it goes no further. Each step takes at least one character; `n` directives came before. -/
def formatted (text : Value → List Char) :
    Nat → Nat → List Char → List Value → List Char × Option FormatFault
  | 0, _, _, _ => ([], none)
  | fuel + 1, n, s, values =>
    let go (front : List Char) (n : Nat) (s : List Char) (values : List Value) :
        List Char × Option FormatFault :=
      let (rest, fault) := formatted text fuel n s values
      (front ++ rest, fault)
    match s with
    | [] => ([], none)
    | '%' :: '%' :: rest => go ['%'] n rest values
    | '%' :: rest =>
      let (layout, rest) := Format.flags {} rest
      match amountAt rest values with
      | none => ([], some .tooFew)
      | some (width, values, rest) =>
        let width := width.getD 0
        let layout := { layout with width := width.natAbs, left := layout.left || width < 0 }
        let precise : Option (Option Int × List Value × List Char) := match rest with
          | '.' :: rest =>
            (amountAt rest values).map (fun found => (some (found.1.getD 0), found.2))
          | _ => some (none, values, rest)
        match precise with
        | none => ([], some .tooFew)
        | some (precision, values, rest) =>
          let layout := { layout with
            precision := precision.bind (fun p => if p < 0 then none else some p.toNat) }
          let marks := rest.takeWhile (fun c => c = 'l')
          match rest.drop marks.length, values with
          | [], _ => ([], some (.improper (n + 1)))
          | letter :: rest, v :: values =>
            match shownValue? layout (!marks.isEmpty) letter (text v) v with
            | some front => go front (n + 1) rest values
            | none => ([], some (.improper (n + 1)))
          | letter :: _, [] =>
            if ("diouxXscfFeEgG%".toList.contains letter) then ([], some .tooFew)
            else ([], some (.improper (n + 1)))
    | c :: rest => go [c] n rest values

/-- The text of a value, where `format` is how numbers with a fraction are written. -/
def Value.toText (format : List Char) : Value → List Char
  | .missing => []
  | .text s | .input s => s
  | .number x =>
    match wholeText? x with
    | some s => s
    | none => (formatted (fun _ => []) (format.length + 1) 0 format [.number x]).1

/-- Two values in a comparison: numbers if both are taken for numbers, and texts otherwise. What is
no number at all is neither less nor greater than anything. -/
def Comparison.holds (c : Comparison) (format : List Char) (a b : Value) : Bool :=
  match a.number?, b.number? with
  | some x, some y =>
    match c with
    | .less => x < y
    | .lessEqual => !(y < x)
    | .equal => !(x < y) && !(y < x)
    | .unequal => x < y || y < x
    | .greater => y < x
    | .greaterEqual => !(x < y)
  | _, _ =>
    let s := a.toText format
    let t := b.toText format
    match c with
    | .less => s < t
    | .lessEqual => !(t < s)
    | .equal => s == t
    | .unequal => s != t
    | .greater => t < s
    | .greaterEqual => !(s < t)

end BuoyGateway.Shell.Rules
