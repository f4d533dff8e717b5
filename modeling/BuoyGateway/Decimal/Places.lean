import BuoyGateway.Decimal.Binary64
import BuoyGateway.Decimal.Numeral

/-!
# Decimals with a given number of places

A quotient of natural numbers as a decimal: with so many places after the point, or with so many
digits in all. What is cut off is rounded to the nearest, a half to the even digit.
-/

namespace BuoyGateway.Decimal

def Binary64.quotient (x : Binary64) : Nat × Nat := Binary64.scale x.mantissa x.exponent

namespace Places

/-- A quotient with so many places after the point, which may be kept where nothing follows it. -/
def fixed (point : Bool) (num den places : Nat) : List Char :=
  let ds := padded (places + 1) (roundQuotient (num * Nat.pow 10 places) den)
  let whole := ds.take (ds.length - places)
  if places = 0 && !point then whole else whole ++ '.' :: ds.drop whole.length

def order (num den : Nat) : Int :=
  if num = 0 then 0
  else
    let k : Int := (digits num).length - (digits den).length
    if den * Nat.pow 10 k.toNat ≤ num * Nat.pow 10 (-k).toNat then k else k - 1

/-- The first digits of a quotient, one and so many more, and the power of ten of the first one. -/
def leading (num den more : Nat) : List Char × Int :=
  let first := order num den
  let shift : Int := more - first
  let n := roundQuotient (num * Nat.pow 10 shift.toNat) (den * Nat.pow 10 (-shift).toNat)
  let ds := padded (more + 1) n
  if more + 1 < ds.length then (ds.take (more + 1), first + 1) else (ds, first)

def exponent (mark : Char) (e : Int) : List Char :=
  mark :: (if e < 0 then '-' else '+') :: padded 2 e.natAbs

/-- A quotient with one digit in front of the point and an exponent. -/
def scientific (point : Bool) (mark : Char) (num den places : Nat) : List Char :=
  let (ds, e) := leading num den places
  let fraction := if places = 0 && !point then [] else '.' :: ds.drop 1
  ds.take 1 ++ fraction ++ exponent mark e

def trimmed (s : List Char) : List Char :=
  if s.contains '.' then
    let s := (s.reverse.dropWhile (fun c => c = '0')).reverse
    if s.getLast? = some '.' then s.dropLast else s
  else s

/-- A quotient with so many digits at most, with an exponent where it is very small or too large. -/
def general (full : Bool) (mark : Char) (num den precision : Nat) : List Char :=
  let precision := max precision 1
  let (ds, e) := leading num den (precision - 1)
  if -4 ≤ e && e < precision then
    let text := fixed full num den (precision - 1 - e).toNat
    if full then text else trimmed text
  else
    let text := ds.take 1 ++ '.' :: ds.drop 1
    (if full then text else trimmed text) ++ exponent mark e

end Places

end BuoyGateway.Decimal
