/-!
# Binary floating point of 64 bits

Magnitudes as `mantissa * 2 ^ exponent`, with at most 53 bits of mantissa, and the rounding of a
quotient of natural numbers to the nearest such magnitude. All arithmetic is exact before the one
rounding at the end.
-/

namespace BuoyGateway.Decimal

/-- A quotient rounded to the nearest natural number, a half to the even one. -/
def roundQuotient (num den : Nat) : Nat :=
  let q := num / den
  let r := num % den
  if den < 2 * r || (2 * r == den && q % 2 == 1) then q + 1 else q

/-- A finite or infinite magnitude: `mantissa * 2 ^ exponent`. -/
structure Binary64 where
  mantissa : Nat
  exponent : Int
  deriving DecidableEq, Repr

namespace Binary64

/-- The least exponent of a unit in the last place. -/
def leastExponent : Int := -1074

/-- The greatest exponent of a unit in the last place of a finite magnitude. -/
def greatestExponent : Int := 971

/-- The least mantissa of a magnitude with all 53 bits, the 52nd power of two. -/
def leastNormal : Nat := 4503599627370496

def zero : Binary64 := ⟨0, leastExponent⟩

def isInfinite (x : Binary64) : Bool := greatestExponent < x.exponent

def scale (n : Nat) (e : Int) : Nat × Nat :=
  (n * Nat.pow 2 e.toNat, Nat.pow 2 (-e).toNat)

/-- The magnitude nearest to a quotient, a tie to the even mantissa. -/
def nearest (num den : Nat) : Binary64 :=
  if num = 0 then zero else
    let order : Int := num.log2 - den.log2
    let order := 
      if den * Nat.pow 2 order.toNat ≤ num * Nat.pow 2 (-order).toNat then order else order - 1
    let exponent := max leastExponent (order - 52)
    let (p, q) := scale num (-exponent)
    let mantissa := roundQuotient p (den * q)
    if mantissa = 2 * leastNormal then ⟨leastNormal, exponent + 1⟩ else ⟨mantissa, exponent⟩

def ofNat (n : Nat) : Binary64 := nearest n 1

def tenPow (k : Nat) : Binary64 := ofNat (Nat.pow 10 k)

def mul (x y : Binary64) : Binary64 :=
  let (p, q) := scale (x.mantissa * y.mantissa) (x.exponent + y.exponent)
  nearest p q

def div (x y : Binary64) : Binary64 :=
  let (p, q) := scale x.mantissa (x.exponent - y.exponent)
  nearest p (y.mantissa * q)

end Binary64

end BuoyGateway.Decimal
