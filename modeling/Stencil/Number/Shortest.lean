import Stencil.Number.Double
import Stencil.Number.Integer

/-! The shortest decimal text of a floating-point number.

The digits are the fewest that read back as the same number, and of those the nearest to it. Every
decimal grid from one digit to seventeen is tried in turn: a grid holds a text that reads back
exactly when one of the two grid points next to the number lies in its rounding interval.
-/

set_option autoImplicit false

namespace Stencil.Number

structure Decimal where
  digits : Nat
  power : Int
  deriving DecidableEq, Repr

def decimalAtMost (a : Nat) (p : Int) (b : Nat) (q : Int) : Bool :=
  a * tenTo p.toNat * twoTo (-q).toNat ≤ b * twoTo q.toNat * tenTo (-p).toNat

def decimalBelow (a : Nat) (p : Int) (b : Nat) (q : Int) : Bool :=
  a * tenTo p.toNat * twoTo (-q).toNat < b * twoTo q.toNat * tenTo (-p).toNat

/-- The largest power of ten that is at most `mantissa · 2 ^ exponent`, for a mantissa above zero. -/
def leadingPower (mantissa : Nat) (exponent : Int) : Int :=
  let guess : Int := (exponent + mantissa.log2) * 30103 / 100000
  if decimalAtMost 1 (guess + 1) mantissa exponent then guess + 1
  else if decimalAtMost 1 guess mantissa exponent then guess
  else guess - 1

def readsBack (mantissa : Nat) (exponent : Int) (digits : Nat) (power : Int) : Bool :=
  let below := if mantissa = twoTo 52 ∧ Double.leastExponent < exponent then 1 else 2
  let low := 4 * mantissa - below
  let high := 4 * mantissa + 2
  let unit := exponent - 2
  if mantissa % 2 = 0 then
    !decimalBelow digits power low unit && decimalAtMost digits power high unit
  else
    !decimalAtMost digits power low unit && decimalBelow digits power high unit

-- The better of the two points of a grid that stand next to a number, if either reads back.
def onGrid? (mantissa : Nat) (exponent power : Int) : Option Decimal :=
  let m := mantissa
  let under := (m * twoTo exponent.toNat * tenTo (-power).toNat) / (twoTo (-exponent).toNat * tenTo power.toNat)
  match readsBack m exponent under power, readsBack m exponent (under + 1) power with
  | true, true =>
    -- twice the number against the sum of its neighbours
    if decimalBelow (2 * under + 1) power (2 * m) exponent then some ⟨under + 1, power⟩
    else if decimalAtMost (2 * under + 1) power (2 * m) exponent && under % 2 = 1 then some ⟨under + 1, power⟩
    else some ⟨under, power⟩
  | true, false => some ⟨under, power⟩
  | false, true => some ⟨under + 1, power⟩
  | false, false => none

def shortestDecimal (mantissa : Nat) (exponent : Int) : Decimal :=
  let leading := leadingPower mantissa exponent
  match (List.range 17).findSome? fun (places : Nat) => onGrid? mantissa exponent (leading - places) with
  | some decimal => decimal
  | none => ⟨0, 0⟩

def withoutTrailingZeros (digits : List Char) : List Char :=
  (digits.reverse.dropWhile (· == '0')).reverse

structure DoubleLayout where
  leastPlain : Int
  leastExponential : Int
  exponentWidth : Nat

/-- Plain notation from `1e-4` up to `1e16`; an exponent has a sign and at least two digits. -/
def plainLayout : DoubleLayout := ⟨-4, 16, 2⟩

def exponentText (layout : DoubleLayout) (power : Int) : List Char :=
  let digits := decimalDigits power.natAbs
  (if power < 0 then '-' else '+') :: List.replicate (layout.exponentWidth - digits.length) '0' ++ digits

def layOut (layout : DoubleLayout) (digits : List Char) (power : Int) : List Char :=
  if power < layout.leastPlain ∨ layout.leastExponential ≤ power then
    match digits with
    | [] => []
    | [d] => d :: 'e' :: exponentText layout power
    | d :: rest => d :: '.' :: rest ++ 'e' :: exponentText layout power
  else if power < 0 then
    '0' :: '.' :: List.replicate (-power - 1).toNat '0' ++ digits
  else
    let whole := power.toNat + 1
    let padded := digits ++ List.replicate (whole - digits.length) '0'
    let fraction := digits.drop whole
    padded.take whole ++ '.' :: (if fraction.isEmpty then ['0'] else fraction)

/-- The digits of a decimal number without zeros at the end, and the power of ten of the first one. -/
def Decimal.significant (d : Decimal) : List Char × Int :=
  let digits := decimalDigits d.digits
  (withoutTrailingZeros digits, d.power + (digits.length - 1 : Nat))

def Double.text : Double → String
  | .nan => "nan"
  | .infinite negative => if negative then "-inf" else "inf"
  | .finite negative mantissa exponent =>
    let body :=
      if mantissa = 0 then ['0', '.', '0']
      else
        let (digits, power) := (shortestDecimal mantissa exponent).significant
        layOut plainLayout digits power
    String.ofList (if negative then '-' :: body else body)

end Stencil.Number
