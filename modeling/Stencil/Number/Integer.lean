import Stencil.Number.Power
import Stencil.Text.Digit
import Stencil.Text.Quoted

/-! Integers as text.

Any decimal digit is read, whatever its script. A text longer than `digitLimit` digits is neither
read nor written, so that hostile input cannot make a conversion slow.
-/

set_option autoImplicit false

namespace Stencil.Number

open Stencil.Text

def digitLimit : Nat := 4300

inductive NumeralFault where
  | notANumeral (base : Nat) (shown : String)
  | tooManyDigits (count : Nat)
  | tooLongToWrite
  deriving DecidableEq, Repr

/-- The decimal digits of a number, most significant first, without superfluous zeros. -/
def decimalDigits (n : Nat) : List Char :=
  if n < 10 then [digitChar n] else decimalDigits (n / 10) ++ [digitChar (n % 10)]

def natText (n : Nat) : String :=
  String.ofList (decimalDigits n)

def NumeralFault.message : NumeralFault → String
  | .notANumeral base shown =>
    "invalid literal for int() with base " ++ natText base ++ ": " ++ shown
  | .tooManyDigits count =>
    "Exceeds the limit (4300 digits) for integer string conversion: value has " ++ natText count ++
      " digits; use sys.set_int_max_str_digits() to increase the limit"
  | .tooLongToWrite =>
    "Exceeds the limit (4300 digits) for integer string conversion; use sys.set_int_max_str_digits() " ++
      "to increase the limit"

-- The number that a list of place values denotes, most significant first.
def ofPlaceValues (base : Nat) (values : List Nat) : Nat :=
  values.foldl (fun total value => base * total + value) 0

/-- Read decimal digits; other digit signs are refused, and so is a text past the limit. -/
def readNat (s : List Char) : Except NumeralFault Nat :=
  let leading := (s.takeWhile fun c => (digitValue? c).isSome).length
  if digitLimit < leading then .error (.tooManyDigits leading)
  else match s.mapM digitValue? with
    | some (value :: values) => .ok (ofPlaceValues 10 (value :: values))
    | _ => .error (.notANumeral 10 (String.ofList ((quoted s).take 200)))

def readInt (s : List Char) : Except NumeralFault Int :=
  match s with
  | '-' :: digits =>
    match readNat digits with
    | .ok n => .ok (-(n : Int))
    | .error (.notANumeral base _) => .error (.notANumeral base (String.ofList ((quoted s).take 200)))
    | .error fault => .error fault
  | digits => (readNat digits).map Int.ofNat

def intText (n : Int) : String :=
  match n with
  | .ofNat n => natText n
  | .negSucc n => String.ofList ('-' :: decimalDigits (n + 1))

def writeInt (n : Int) : Except NumeralFault String :=
  if tenTo digitLimit ≤ n.natAbs then .error .tooLongToWrite else .ok (intText n)

theorem decimalDigits_ne_nil (n : Nat) : decimalDigits n ≠ [] := by
  unfold decimalDigits
  split <;> simp

end Stencil.Number
