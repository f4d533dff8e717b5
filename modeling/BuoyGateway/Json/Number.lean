import BuoyGateway.Json.Lexical

/-!
# The values of numbers

A number without fraction and exponent that fits 64 bits is an integer. All others are binary
floating point: the digits that fit 64 bits, scaled by a power of ten in one rounded operation.
Negative zero has no integer form and is floating point, too.
-/

namespace BuoyGateway.Json

open Decimal (Binary64 digitValue ofDigits)

inductive Number
  | natural (n : Nat)
  | negative (n : Nat)
  | float (negative : Bool) (magnitude : Binary64)
  deriving DecidableEq, Repr

def greatestWord : Nat := UInt64.size - 1

/-- The greatest number of 31 bits, beyond which an exponent is not counted. -/
def greatestExponent : Nat := 2147483647

/-- The leading digits that fit 64 bits, and the number of digits left out after the first that
does not fit. -/
def wholePart (digits : List Char) : Nat × Nat :=
  digits.foldl (fun (value, dropped) c =>
    if dropped = 0 && 10 * value + digitValue c ≤ greatestWord then (10 * value + digitValue c, 0)
    else (value, dropped + 1)) (0, 0)

/-- The digits after the point, taken while all together fit 64 bits, and the number of them. -/
def fractionPart (value : Nat) : List Char → Nat × Nat
  | [] => (value, 0)
  | c :: digits =>
    if 10 * value + digitValue c ≤ greatestWord then
      let (value, places) := fractionPart (10 * value + digitValue c) digits
      (value, places + 1)
    else (value, 0)

/-- A magnitude divided by a power of ten, in steps that have a finite power each. Three steps are
enough to reach zero. -/
def divideByTens : Nat → Binary64 → Nat → Binary64
  | 0, x, _ => x
  | steps + 1, x, k =>
    if k ≤ 308 then x.div (Binary64.tenPow k)
    else if x.mantissa = 0 then x
    else divideByTens steps (x.div (Binary64.tenPow 308)) (k - 308)

def scaled (negative : Bool) (digits : Nat) (exponent : Int) : Except Error Number :=
  let x := Binary64.ofNat digits
  if exponent < 0 then .ok (.float negative (divideByTens 5 x exponent.natAbs))
  else if digits = 0 then .ok (.float negative Binary64.zero)
  else if 308 < exponent then .error .numberOutOfRange
  else
    let y := x.mul (Binary64.tenPow exponent.toNat)
    if y.isInfinite then .error .numberOutOfRange else .ok (.float negative y)

/-- The value of a number that has only whole digits. -/
def wholeNumber (negative : Bool) (value dropped : Nat) : Except Error Number :=
  if dropped != 0 then scaled negative value dropped
  else if !negative then .ok (.natural value)
  else if value = 0 || UInt64.size / 2 < value then .ok (.float true (Binary64.ofNat value))
  else .ok (.negative value)

def Numeral.value (n : Numeral) : Except Error Number :=
  let (whole, dropped) := wholePart n.whole
  let (value, places) := fractionPart whole n.fraction
  match n.exponent with
  | none =>
    if n.fraction.isEmpty then wholeNumber n.negative whole dropped
    else scaled n.negative value ((dropped : Int) - places)
  | some (minus, digits) =>
    let e := ofDigits digits
    if e ≤ greatestExponent then
      scaled n.negative value ((dropped : Int) - places + (if minus then -(e : Int) else e))
    else if value = 0 || minus then .ok (.float n.negative Binary64.zero)
    else .error .numberOutOfRange

def Number.found : Number → Found
  | .natural n => .integer n
  | .negative n => .integer (-n)
  | .float minus magnitude => .float minus magnitude

end BuoyGateway.Json
