import Stencil.Number.Double
import Stencil.Number.Integer
import Stencil.Text.Blank
import Stencil.Text.LetterCase

/-! Floating-point numbers from decimal text.

A numeral has an optional sign, digits with at most one point among them and an optional exponent.
Single underscores may stand between digits. The words `inf`, `infinity` and `nan` are read in any
letter case.
-/

set_option autoImplicit false

namespace Stencil.Number

open Stencil.Text

/-- Decimal digits of every script as ASCII digits; other characters stay. -/
def withAsciiDigits (s : List Char) : List Char :=
  s.map fun c => match digitValue? c with
    | some n => digitChar n
    | none => c

def isAsciiDigit (c : Char) : Bool :=
  '0' ≤ c && c ≤ '9'

/-- Take out underscores that stand between two digits; any other underscore is refused. -/
def withoutSeparators (previous : Option Char) : List Char → Option (List Char)
  | [] => if previous = some '_' then none else some []
  | c :: rest =>
    let afterDigit := previous.any isAsciiDigit
    if c = '_' then
      if afterDigit then withoutSeparators (some c) rest else none
    else if previous = some '_' ∧ !isAsciiDigit c then none
    else (withoutSeparators (some c) rest).map (c :: ·)

def asciiValue (digits : List Char) : Nat :=
  ofPlaceValues 10 (digits.map fun c => c.toNat - 48)

def readExponent? (s : List Char) : Option Int :=
  let (negative, digits) := match s with
    | '-' :: rest => (true, rest)
    | '+' :: rest => (false, rest)
    | rest => (false, rest)
  if digits.isEmpty || !digits.all isAsciiDigit then none
  else some (if negative then -(asciiValue digits : Int) else asciiValue digits)

-- Read digits, a point and an exponent, all ASCII and without a sign.
def readUnsigned? (negative : Bool) (s : List Char) : Option Double :=
  let whole := s.takeWhile isAsciiDigit
  let afterWhole := s.dropWhile isAsciiDigit
  let (fraction, afterFraction) := match afterWhole with
    | '.' :: rest => (rest.takeWhile isAsciiDigit, rest.dropWhile isAsciiDigit)
    | rest => ([], rest)
  let digits := whole ++ fraction
  if digits.isEmpty then none
  else
    let exponent? := match afterFraction with
      | [] => some 0
      | c :: rest => if c = 'e' ∨ c = 'E' then readExponent? rest else none
    exponent?.map fun exponent =>
      let significant := digits.dropWhile (· == '0')
      .ofDecimal negative (asciiValue significant) significant.length (exponent - fraction.length)

def readDouble? (s : List Char) : Option Double :=
  let (negative, body) := match withAsciiDigits (trim s) with
    | '-' :: rest => (true, rest)
    | '+' :: rest => (false, rest)
    | rest => (false, rest)
  let word := String.ofList (body.map Char.toLower)
  if word = "inf" ∨ word = "infinity" then some (.infinite negative)
  else if word = "nan" then some .nan
  else (withoutSeparators none body).bind (readUnsigned? negative)

end Stencil.Number
