/-! Binary floating-point numbers of 64 bits, as exact fractions. Results are rounded to the nearest
number, and halfway to the one with an even significand. -/
namespace PascalWorkspace.Number

/-- A finite number is `±significand · 2 ^ exponent`, with less than 54 bits in the significand. -/
inductive Binary64 where
  | nan
  | infinite (negative : Bool)
  | finite (negative : Bool) (significand : Nat) (exponent : Int)
  deriving DecidableEq, Repr

namespace Binary64

def minExponent : Int := -1074

def maxExponent : Int := 971

/-- The bits of a significand. -/
def precision : Nat := 53

/-- The least significand of a number that is not close to zero. -/
def leastSignificand : Nat := 1 <<< (precision - 1)

/-- Multiplies a fraction by a power of two. -/
def scale (num den : Nat) (exponent : Int) : Nat × Nat :=
  if 0 ≤ exponent then (num <<< exponent.toNat, den) else (num, den <<< (-exponent).toNat)

/-- A quotient rounded to the nearest whole number, halfway to the even one. -/
def divideToEven (num den : Nat) : Nat :=
  let q := num / den
  let twice := 2 * (num % den)
  if twice < den then q
  else if den < twice then q + 1
  else if q % 2 = 0 then q else q + 1

/-- The exponent at which the significand of a fraction has its full number of bits, as far as the
range of exponents goes. -/
def exponentFor (num den : Nat) : Int :=
  let guess : Int := num.log2 - den.log2 - (precision - 1)
  let scaled := scale num den (-guess)
  let exact := if scaled.1 / scaled.2 < leastSignificand then guess - 1 else guess
  max minExponent exact

/-- The number nearest to a fraction. -/
def ofFraction (negative : Bool) (num den : Nat) : Binary64 :=
  if num = 0 then .finite negative 0 minExponent
  else
    let exponent := exponentFor num den
    let scaled := scale num den (-exponent)
    let significand := divideToEven scaled.1 scaled.2
    let carries := significand = 2 * leastSignificand
    let overflows := if carries then maxExponent ≤ exponent else maxExponent < exponent
    if overflows then .infinite negative
    else if carries then .finite negative leastSignificand (exponent + 1)
    else .finite negative significand exponent

def ofInt (n : Int) : Binary64 := ofFraction (decide (n < 0)) n.natAbs 1

/-- The value as a signed fraction; the numbers that are not finite have none. -/
def fraction? : Binary64 → Option (Int × Nat)
  | .finite negative significand exponent =>
    let (num, den) := scale significand 1 exponent
    some (if negative then -num else num, den)
  | _ => none

def isZero : Binary64 → Bool
  | .finite _ significand _ => significand == 0
  | _ => false

def negate : Binary64 → Binary64
  | .nan => .nan
  | .infinite negative => .infinite !negative
  | .finite negative significand exponent => .finite (!negative) significand exponent

def isNegative : Binary64 → Bool
  | .nan => false
  | .infinite negative => negative
  | .finite negative .. => negative

/-- Whether a signed fraction is written with a sign: it is below zero, or a zero that is given one.
-/
def ofSigned (zeroNegative : Bool) (num : Int) (den : Nat) : Binary64 :=
  ofFraction (if num = 0 then zeroNegative else decide (num < 0)) num.natAbs den

def add (a b : Binary64) : Binary64 :=
  match a, b with
  | .nan, _ | _, .nan => .nan
  | .infinite n, .infinite m => if n = m then .infinite n else .nan
  | .infinite n, _ => .infinite n
  | _, .infinite n => .infinite n
  | .finite .., .finite .. =>
    match a.fraction?, b.fraction? with
    | some (n, d), some (m, e) => ofSigned (a.isNegative && b.isNegative) (n * e + m * d) (d * e)
    | _, _ => .nan

def multiply (a b : Binary64) : Binary64 :=
  let negative := a.isNegative != b.isNegative
  match a, b with
  | .nan, _ | _, .nan => .nan
  | .infinite _, other | other, .infinite _ => if other.isZero then .nan else .infinite negative
  | .finite .., .finite .. =>
    match a.fraction?, b.fraction? with
    | some (n, d), some (m, e) => ofSigned negative (n * m) (d * e)
    | _, _ => .nan

/-- The number nearest to `digits · 10 ^ exponent`. Exponents beyond the range need not be computed
with. -/
def ofDecimal (digits : Nat) (exponent : Int) : Binary64 :=
  let magnitude : Int := (Nat.toDigits 10 digits).length + exponent
  if digits = 0 ∨ magnitude < -400 then .finite false 0 minExponent
  else if 400 < magnitude then .infinite false
  else if 0 ≤ exponent then ofFraction false (digits * Nat.pow 10 exponent.toNat) 1
  else ofFraction false digits (Nat.pow 10 (-exponent).toNat)

end Binary64

end PascalWorkspace.Number
