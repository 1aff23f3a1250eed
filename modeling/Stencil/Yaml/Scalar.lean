import Stencil.Fault
import Stencil.Number.Reading
import Stencil.Text.Split
import Stencil.Value.Basic

/-! What plain scalars stand for.

Truth values, null, integers in four bases and in base sixty, floating-point numbers with a point,
and dates are recognised by their form; every other plain scalar is text.
-/

set_option autoImplicit false

namespace Stencil.Yaml

open Number (Double NumeralFault isAsciiDigit asciiValue tenTo)

def boolWords : List (String × Bool) :=
  [("yes", true), ("Yes", true), ("YES", true), ("no", false), ("No", false), ("NO", false),
    ("true", true), ("True", true), ("TRUE", true), ("false", false), ("False", false), ("FALSE", false),
    ("on", true), ("On", true), ("ON", true), ("off", false), ("Off", false), ("OFF", false)]

def nullWords : List String := ["", "~", "null", "Null", "NULL"]

def cutSign : List Char → Bool × List Char
  | '-' :: rest => (true, rest)
  | '+' :: rest => (false, rest)
  | rest => (false, rest)

def isRunOf (inClass : Char → Bool) (s : List Char) : Bool :=
  !s.isEmpty && s.all inClass

def isDigitOrJoint (c : Char) : Bool := isAsciiDigit c || c == '_'

def withoutJoints (s : List Char) : List Char := s.filter (· != '_')

def colonParts : List Char → List (List Char)
  | [] => [[]]
  | c :: rest =>
    if c = ':' then [] :: colonParts rest
    else match colonParts rest with
      | [] => [[c]]
      | part :: parts => (c :: part) :: parts

def isSixtieth : List Char → Bool
  | [c] => isAsciiDigit c
  | [c, d] => '0' ≤ c && c ≤ '5' && isAsciiDigit d
  | _ => false

def isSexagesimal (leadingZero : Bool) (s : List Char) : Bool :=
  match colonParts s with
  | first :: second :: more =>
    isRunOf isDigitOrJoint first && first.head?.any isAsciiDigit &&
      (leadingZero || first.head? != some '0') && (second :: more).all isSixtieth
  | _ => false

/-- The digit values of a text in a base up to sixteen; other characters count as nothing. -/
def digitsIn (base : Nat) (s : List Char) : Nat :=
  Number.ofPlaceValues base (s.map fun c =>
    if isAsciiDigit c then c.toNat - 48 else if 'a' ≤ c then c.toNat - 87 else c.toNat - 55)

def readBase (base : Nat) (digits : List Char) : Except NumeralFault Nat :=
  if digits.isEmpty then .error (.notANumeral base (Text.quotedString "")) else .ok (digitsIn base digits)

inductive IntForm where
  | binary | octal | decimal | hexadecimal | sexagesimal
  deriving DecidableEq, Repr

def intForm? (s : List Char) : Option IntForm :=
  match s with
  | '0' :: 'b' :: rest => if isRunOf (fun c => c == '0' || c == '1' || c == '_') rest then some .binary else none
  | '0' :: 'x' :: rest =>
    if isRunOf (fun c => isAsciiDigit c || ('a' ≤ c && c ≤ 'f') || ('A' ≤ c && c ≤ 'F') || c == '_') rest
    then some .hexadecimal else none
  | ['0'] => some .decimal
  | '0' :: rest => if isRunOf (fun c => ('0' ≤ c && c ≤ '7') || c == '_') rest then some .octal else none
  | c :: rest =>
    if !isAsciiDigit c then none
    else if rest.all isDigitOrJoint then some .decimal
    else if isSexagesimal false (c :: rest) then some .sexagesimal
    else none
  | [] => none

def readIntForm (form : IntForm) (s : List Char) : Except NumeralFault Nat :=
  let digits := withoutJoints s
  match form with
  | .binary => readBase 2 (digits.drop 2)
  | .hexadecimal => readBase 16 (digits.drop 2)
  | .octal => if digits = ['0'] then .ok 0 else readBase 8 digits
  | .decimal => Number.readNat digits
  | .sexagesimal => do
    let parts ← (colonParts digits).mapM Number.readNat
    return Number.ofPlaceValues 60 parts

inductive DoubleForm where
  | numeral | sexagesimal | infinity | notANumber
  deriving DecidableEq, Repr

def isExponent : List Char → Bool
  | [] => true
  | e :: sign :: digits => (e == 'e' || e == 'E') && (sign == '-' || sign == '+') && isRunOf isAsciiDigit digits
  | _ => false

-- The form of a floating-point number, which may have a sign in some forms.
def doubleForm? (s : List Char) : Option DoubleForm :=
  let unsigned := (cutSign s).2
  let signed := unsigned.length < s.length
  let whole := unsigned.takeWhile isDigitOrJoint
  match unsigned.dropWhile isDigitOrJoint with
  | '.' :: rest =>
    let tail := rest.dropWhile isDigitOrJoint
    if whole.isEmpty then
      if !signed && rest.head?.any isAsciiDigit && isExponent tail then some .numeral
      else if ["inf", "Inf", "INF"].contains (String.ofList rest) then some .infinity
      else if !signed && ["nan", "NaN", "NAN"].contains (String.ofList rest) then some .notANumber
      else none
    else if whole.head?.any isAsciiDigit && isExponent tail then some .numeral
    else none
  | ':' :: _ =>
    match Text.cutAtChar? '.' unsigned with
    | some (front, decimals) =>
      if isSexagesimal true front && decimals.all isDigitOrJoint then some .sexagesimal else none
    | none => none
  | _ => none

/-- The sum of parts of a row in base sixty, the last part first; `unit` is what the first of them
counts. Every step of the sum is rounded. -/
def sumSixtieths (total : Double) (unit : Nat) : List Double → Outcome Double
  | [] => .ok total
  | part :: parts => do
    let weight ← Outcome.ofWhole unit
    sumSixtieths (total.add (part.mul weight)) (60 * unit) parts

def readDoubleForm (form : DoubleForm) (s : List Char) : Outcome Double :=
  let (negative, body) := cutSign (withoutJoints s)
  let unsigned := fun digits => (Number.readUnsigned? false digits).getD .nan
  let signed := fun (d : Double) => if negative then d.neg else d
  match form with
  | .numeral => .ok (signed (unsigned body))
  | .sexagesimal =>
    (sumSixtieths (.signedZero false) 1 ((colonParts body).map unsigned).reverse).map signed
  | .infinity => .ok (.infinite negative)
  | .notANumber => .ok .nan

def isDate (s : List Char) : Bool :=
  match s with
  | [a, b, c, d, '-', e, f, '-', g, h] => [a, b, c, d, e, f, g, h].all isAsciiDigit
  | _ => false

/-- The digits at the front of a text, at least `least` and at most `most` of them, and the text after them. -/
def cutDigits (least most : Nat) (s : List Char) : Option (Nat × List Char) :=
  let digits := (s.take most).takeWhile isAsciiDigit
  if digits.length < least then none else some (asciiValue digits, s.drop digits.length)

def behind? (c : Char) (s : List Char) : Option (List Char) :=
  Text.after? [c] s

/-- The distance of a clock from universal time in seconds: nothing, a `Z`, or a sign with hours and
perhaps minutes. -/
def readOffset? (s : List Char) : Option (Option Int) :=
  match s with
  | [] => some none
  | ['Z'] => some (some 0)
  | sign :: rest =>
    if sign != '+' && sign != '-' then none
    else do
      let (hours, rest) ← cutDigits 1 2 rest
      let (minutes, rest) ← match rest with
        | ':' :: rest => cutDigits 2 2 rest
        | rest => some (0, rest)
      let size : Int := (hours * 3600 + minutes * 60 : Nat)
      if rest.isEmpty then some (some (if sign = '-' then -size else size)) else none

def afterDay? (s : List Char) : Option (List Char) :=
  match s with
  | 'T' :: rest => some rest
  | 't' :: rest => some rest
  | ' ' :: rest => some (rest.dropWhile (· == ' '))
  | _ => none

-- The fraction of a second in millionths, of which further digits are left out.
def readFraction (s : List Char) : Nat × List Char :=
  match s with
  | '.' :: rest =>
    let digits := (rest.takeWhile isAsciiDigit).take 6
    (asciiValue digits * tenTo (6 - digits.length), rest.dropWhile isAsciiDigit)
  | rest => (0, rest)

/-- What stands in a text that has the form of a day with a time; it may still be no moment. -/
def readMoment? (s : List Char) : Option (Except MomentFault Moment) := do
  let (year, s) ← cutDigits 4 4 s
  let (month, s) ← behind? '-' s >>= cutDigits 1 2
  let (day, s) ← behind? '-' s >>= cutDigits 1 2
  let (hour, s) ← afterDay? s >>= cutDigits 1 2
  let (minute, s) ← behind? ':' s >>= cutDigits 2 2
  let (second, s) ← behind? ':' s >>= cutDigits 2 2
  let (micro, s) := readFraction s
  let offset? ← readOffset? (s.dropWhile (· == ' '))
  return Moment.make year month day hour minute second micro offset?

/-- The day that a date writes, or the moment that a date with a time writes. -/
def readCalendar? (s : List Char) : Option (Except MomentFault Object) :=
  if isDate s then
    let number := fun place length => asciiValue ((s.drop place).take length)
    some ((Day.make (number 0 4) (number 5 2) (number 8 2)).map .day)
  else (readMoment? s).map fun moment => moment.map .moment

def plainValue (s : List Char) : Outcome Value :=
  let text := String.ofList s
  let (negative, unsigned) := cutSign s
  if nullWords.contains text then .ok .null
  else match boolWords.find? (·.1 == text) with
    | some (_, b) => .ok (.bool b)
    | none =>
      match intForm? unsigned, doubleForm? s, readCalendar? s with
      | some form, _, _ => do
        let size ← Outcome.ofNumeral (readIntForm form unsigned)
        return .int (if negative then -(size : Int) else size)
      | none, some form, _ => (readDoubleForm form s).map .float
      | none, none, some object => (object.map .object).mapError .moment
      | none, none, none => if text = "=" ∨ text = "<<" then .error .yaml else .ok (.text text)

end Stencil.Yaml
