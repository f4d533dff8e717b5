import BuoyGateway.Decimal.Binary64
import BuoyGateway.Decimal.Numeral

/-!
# The shortest decimal text of a binary magnitude

A magnitude is written with the fewest digits that read back as it, and of those with the digits
nearest to it. `FloatText` holds the decisions that the text leaves open: which powers of ten are
written out, and how an exponent looks.
-/

namespace BuoyGateway.Decimal

/-- A decimal magnitude: `digits * 10 ^ exponent`. -/
structure Scientific where
  digits : Nat
  exponent : Int
  deriving DecidableEq, Repr

namespace Shortest

/-- Magnitudes are compared as natural numbers, in units of `2 ^ -1080 * 10 ^ -345`. Every finite
magnitude, half its last place and every power of ten that is tried are whole in this unit. -/
def binaryPlaces : Nat := 1080

def decimalPlaces : Nat := 345

/-- `n * 2 ^ e` in units of comparison. -/
def inUnits (n : Nat) (e : Int) : Nat := 
  n * Nat.pow 2 (e + binaryPlaces).toNat * Nat.pow 10 decimalPlaces

/-- `10 ^ k` in units of comparison. -/
def tenInUnits (k : Int) : Nat := 
  Nat.pow 10 (k + decimalPlaces).toNat * Nat.pow 2 binaryPlaces

/-- The magnitudes that round to `x`, in units of comparison: the least, the greatest, and whether
these two round to `x` themselves. -/
def interval (x : Binary64) : Nat × Nat × Bool :=
  let value := inUnits x.mantissa x.exponent
  let half := inUnits 1 (x.exponent - 1)
  let below :=
    if x.mantissa = Binary64.leastNormal && Binary64.leastExponent < x.exponent then half / 2
    else half
  (value - below, value + half, x.mantissa % 2 == 0)

/-- The neighbours of `x` on the grid of multiples of `10 ^ k` that round to `x`, the nearer one
first. -/
def onGrid (x : Binary64) (k : Int) : Option Nat :=
  let value := inUnits x.mantissa x.exponent
  let (low, high, closed) := interval x
  let unit := tenInUnits k
  let down := value / unit
  let fits (d : Nat) : Bool :=
    let y := d * unit
    if closed then low ≤ y && y ≤ high else low < y && y < high
  let above := value - down * unit
  let below := (down + 1) * unit - value
  let nearer := if above < below || (above == below && down % 2 == 0) then down else down + 1
  if fits nearer then some nearer
  else if fits down then some down
  else if fits (down + 1) then some (down + 1)
  else none

/-- The power of ten of the first digit of `x`. -/
def order (x : Binary64) : Int :=
  (digits (inUnits x.mantissa x.exponent / Nat.pow 2 binaryPlaces)).length - 1 - decimalPlaces

def trim : Nat → Scientific → Scientific
  | 0, d => d
  | fuel + 1, d =>
    if d.digits % 10 = 0 && d.digits != 0 then trim fuel ⟨d.digits / 10, d.exponent + 1⟩ else d

/-- The shortest decimal that reads back as `x`, nearest to it among those of its length. Seventeen
digits are always enough. -/
def ofBinary (x : Binary64) : Scientific :=
  let first := order x
  let grids : List Int := (List.range 17).map (fun (n : Nat) => first - n)
  match grids.findSome? (fun k => (onGrid x k).map (fun d => (⟨d, k⟩ : Scientific))) with
  | some d => trim 20 d
  | none => ⟨0, 0⟩

end Shortest

/-- How a magnitude is written: digits are written out while the power of ten of the first one is
from `leastOrder` to `greatestOrder`; an exponent has a sign and at least `exponentWidth` digits. -/
structure FloatText where
  leastOrder : Int
  greatestOrder : Int
  exponentWidth : Nat

namespace FloatText

def write (style : FloatText) (d : Scientific) : List Char :=
  let ds := digits d.digits
  let first := d.exponent + ds.length - 1
  if style.leastOrder ≤ first && first ≤ style.greatestOrder then
    if (ds.length : Int) ≤ first + 1 then
      ds ++ List.replicate (first + 1 - ds.length).toNat '0' ++ ['.', '0']
    else if 0 ≤ first then
      ds.take (first + 1).toNat ++ ['.'] ++ ds.drop (first + 1).toNat
    else ['0', '.'] ++ List.replicate (-first - 1).toNat '0' ++ ds
  else
    let fraction := if ds.length = 1 then [] else '.' :: ds.drop 1
    let sign := if first < 0 then '-' else '+'
    ds.take 1 ++ fraction ++ ['e', sign] ++ padded style.exponentWidth first.natAbs

def text (style : FloatText) (negative : Bool) (x : Binary64) : String :=
  let magnitude := if x.mantissa = 0 then ['0', '.', '0'] else style.write (Shortest.ofBinary x)
  String.ofList (if negative then '-' :: magnitude else magnitude)

end FloatText

end BuoyGateway.Decimal
