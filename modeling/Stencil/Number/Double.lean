import Stencil.Number.Power

/-! Binary floating-point numbers of 64 bits, as exact data.

A finite number is `± mantissa · 2 ^ exponent` with a mantissa below `2 ^ 53` and an exponent
between -1074 and 971; the mantissa is at least `2 ^ 52` unless the exponent is -1074. Reading
decimal text and dividing integers round to the nearest number, a tie to the even mantissa.
-/

set_option autoImplicit false

namespace Stencil.Number

inductive Double where
  | nan
  | infinite (negative : Bool)
  | finite (negative : Bool) (mantissa : Nat) (exponent : Int)
  deriving DecidableEq, Repr

-- A quotient rounded to the nearest integer, a tie to the even one.
def roundedQuotient (num den : Nat) : Nat :=
  let q := num / den
  let r := num % den
  if den < 2 * r ∨ (2 * r = den ∧ q % 2 = 1) then q + 1 else q

namespace Double

def leastExponent : Int := -1074

def signedZero (negative : Bool) : Double :=
  .finite negative 0 leastExponent

def scaledQuotient (num den : Nat) (exponent : Int) : Nat :=
  roundedQuotient (num * twoTo (-exponent).toNat) (den * twoTo exponent.toNat)

/-- The nearest number to a quotient of two integers, the second of which is not zero. -/
def ofRatio (negative : Bool) (num den : Nat) : Double :=
  if num = 0 then signedZero negative
  else
    let guess : Int := (num.log2 : Int) - den.log2 - 52
    let tooHigh := num * twoTo (-guess).toNat < twoTo 52 * den * twoTo guess.toNat
    let exponent := max (if tooHigh then guess - 1 else guess) leastExponent
    let mantissa := scaledQuotient num den exponent
    let (mantissa, exponent) := if mantissa = twoTo 53 then (twoTo 52, exponent + 1) else (mantissa, exponent)
    if 971 < exponent then .infinite negative else .finite negative mantissa exponent

/-- The nearest number to `digits · 10 ^ power`, where `count` is the number of decimal digits. -/
def ofDecimal (negative : Bool) (digits count : Nat) (power : Int) : Double :=
  if digits = 0 then signedZero negative
  else if 320 < power + count then .infinite negative
  else if power + count < -340 then signedZero negative
  else ofRatio negative (digits * tenTo power.toNat) (tenTo (-power).toNat)

def toInt? : Double → Option Int
  | .finite negative mantissa exponent =>
    let shift := twoTo (-exponent).toNat
    let size := mantissa * twoTo exponent.toNat
    if size % shift = 0 then
      let whole : Int := (size / shift : Nat)
      some (if negative then -whole else whole)
    else none
  | _ => none

def ofInt (n : Int) : Double :=
  ofRatio (n < 0) n.natAbs 1

def quotientOf (mantissa : Nat) (exponent : Int) : Nat × Nat :=
  (mantissa * twoTo exponent.toNat, twoTo (-exponent).toNat)

/-- The nearest number to the sum of two numbers; a sum of nothing but negative zeros is one. -/
def add : Double → Double → Double
  | .nan, _ => .nan
  | _, .nan => .nan
  | .infinite negative, .infinite other => if negative = other then .infinite negative else .nan
  | .infinite negative, _ => .infinite negative
  | _, .infinite negative => .infinite negative
  | .finite negative m e, .finite negative' m' e' =>
    let (num, den) := quotientOf m e
    let (num', den') := quotientOf m' e'
    let size : Int := (num * den' : Nat)
    let size' : Int := (num' * den : Nat)
    let sum := (if negative then -size else size) + (if negative' then -size' else size')
    if sum = 0 then signedZero (negative && negative') else ofRatio (sum < 0) sum.natAbs (den * den')

def mul : Double → Double → Double
  | .nan, _ => .nan
  | _, .nan => .nan
  | .infinite negative, .infinite other => .infinite (negative != other)
  | .infinite negative, .finite other m _ => if m = 0 then .nan else .infinite (negative != other)
  | .finite negative m _, .infinite other => if m = 0 then .nan else .infinite (negative != other)
  | .finite negative m e, .finite other m' e' =>
    let (num, den) := quotientOf m e
    let (num', den') := quotientOf m' e'
    ofRatio (negative != other) (num * num') (den * den')

def neg : Double → Double
  | .nan => .nan
  | .infinite negative => .infinite !negative
  | .finite negative m e => .finite (!negative) m e

def isZero : Double → Bool
  | .finite _ mantissa _ => mantissa == 0
  | _ => false

end Double

end Stencil.Number
