import Stencil.Fault
import Stencil.Number.Reading
import Stencil.Number.Shortest
import Stencil.Value.Kind

/-! Messages with places for arguments.

A place is a percent sign, flags, a width, a precision and a letter that says how the argument is
written: as its own text, in quoted form, as an integer in some base, as a fixed or exponential
decimal, or as a character. Two percent signs stand for one.
-/

set_option autoImplicit false

namespace Stencil.Log

open Number

structure Place where
  left : Bool
  sign : Bool
  blank : Bool
  alternate : Bool
  zeros : Bool
  width : Nat
  precision? : Option Nat
  deriving Repr

def Place.bare : Place := ⟨false, false, false, false, false, 0, none⟩

def Place.pad (place : Place) (s : List Char) : List Char :=
  let fill := List.replicate (place.width - s.length) ' '
  if place.left then s ++ fill else fill ++ s

def Place.padNumber (place : Place) (lead digits : List Char) : List Char :=
  if place.zeros && !place.left then
    lead ++ List.replicate (place.width - lead.length - digits.length) '0' ++ digits
  else place.pad (lead ++ digits)

def Place.signOf (place : Place) (negative : Bool) : List Char :=
  if negative then ['-'] else if place.sign then ['+'] else if place.blank then [' '] else []

def baseDigits (base n : Nat) : List Char :=
  Nat.toDigits base n

-- Write an integer in a base, with a mark of the base if the alternate form is wanted.
def Place.writeIntIn (place : Place) (base : Nat) (mark : List Char) (capital : Bool) (n : Int) : List Char :=
  let digits := baseDigits base n.natAbs
  let digits := if capital then digits.map Char.toUpper else digits
  let digits := match place.precision? with
    | some p => List.replicate (p - digits.length) '0' ++ digits
    | none => digits
  let lead := place.signOf (n < 0) ++ (if place.alternate then mark else [])
  place.padNumber lead digits

def fixedDigits (num den decimals : Nat) (point : Bool) : List Char :=
  let scaled := decimalDigits (roundedQuotient (num * tenTo decimals) den)
  let padded := List.replicate (decimals + 1 - scaled.length) '0' ++ scaled
  let whole := padded.take (padded.length - decimals)
  if decimals = 0 then (if point then whole ++ ['.'] else whole)
  else whole ++ '.' :: padded.drop (padded.length - decimals)

-- The significant digits of a number above zero, rounded to a count, and its power of ten.
def roundedDigits (mantissa : Nat) (exponent : Int) (count : Nat) : List Char × Int :=
  let power := leadingPower mantissa exponent
  let (num, den) := Double.quotientOf mantissa exponent
  let shift : Int := count - 1 - power
  let digits := decimalDigits (roundedQuotient (num * tenTo shift.toNat) (den * tenTo (-shift).toNat))
  if digits.length > count then (digits.take count, power + 1) else (digits, power)

def exponential (digits : List Char) (power : Int) (mark : Char) (point : Bool) : List Char :=
  let body := match digits with
    | [] => []
    | [d] => if point then [d, '.'] else [d]
    | d :: rest => d :: '.' :: rest
  body ++ mark :: exponentText plainLayout power

def doubleBody (letter : Char) (precision : Nat) (alternate : Bool) (mantissa : Nat) (exponent : Int) :
    List Char :=
  let (num, den) := Double.quotientOf mantissa exponent
  if letter = 'f' then fixedDigits num den precision alternate
  else if letter = 'e' then
    let (digits, power) :=
      if mantissa = 0 then (List.replicate (precision + 1) '0', 0)
      else roundedDigits mantissa exponent (precision + 1)
    exponential digits power 'e' alternate
  else
    let count := max precision 1
    let (digits, power) :=
      if mantissa = 0 then (List.replicate count '0', 0) else roundedDigits mantissa exponent count
    let kept := if alternate then digits else
      match withoutTrailingZeros digits with
      | [] => ['0']
      | shorter => shorter
    if power < -4 ∨ (count : Int) ≤ power then exponential kept power 'e' alternate
    else if power < 0 then '0' :: '.' :: List.replicate (-power - 1).toNat '0' ++ kept
    else
      let whole := power.toNat + 1
      let padded := kept ++ List.replicate (whole - kept.length) '0'
      let decimals := kept.drop whole
      if decimals.isEmpty && !alternate then padded.take whole
      else padded.take whole ++ '.' :: decimals

def Place.writeDouble (place : Place) (letter : Char) (d : Double) : List Char :=
  let capital := letter.isUpper
  let small := letter.toLower
  let raise := fun (s : List Char) => if capital then s.map Char.toUpper else s
  match d with
  | .nan => place.padNumber (place.signOf false) (raise "nan".toList)
  | .infinite negative => place.padNumber (place.signOf negative) (raise "inf".toList)
  | .finite negative mantissa exponent =>
    let body := doubleBody small (place.precision?.getD 6) place.alternate mantissa exponent
    place.padNumber (place.signOf negative) (raise body)

def Place.cut (place : Place) (s : List Char) : List Char :=
  match place.precision? with
  | some n => s.take n
  | none => s

def truncated? : Double → Option Int
  | .finite negative mantissa exponent =>
    let (num, den) := Double.quotientOf mantissa exponent
    let size : Int := (num / den : Nat)
    some (if negative then -size else size)
  | _ => none

def wholeOf? : Value → Option Int
  | .int n => some n
  | .bool b => some (if b then 1 else 0)
  | _ => none

def doubleOf (argument : Value) : Outcome Double :=
  match argument, wholeOf? argument with
  | .float d, _ => .ok d
  | _, some n => Outcome.ofWhole n
  | other, none => .error (.misfit ("must be real number, not " ++ other.kindName))

def charOf (argument : Value) : Outcome Char :=
  match argument, wholeOf? argument with
  | .text s, _ =>
    match s.toList with
    | [c] => .ok c
    | _ => .error (.misfit "%c requires int or char")
  | _, some n =>
    if 0 ≤ n ∧ n < 0x110000 then .ok (Char.ofNat n.toNat)
    else .error (.raised .overflow (some "%c arg not in range(0x110000)"))
  | _, none => .error (.misfit "%c requires int or char")

def asciiOnly (s : List Char) : List Char :=
  s.flatMap fun c => if c.toNat < 128 then [c] else Text.codePointEscape c

def Place.write (place : Place) (letter : Char) (argument : Value) : Outcome (List Char) :=
  match letter with
  | 's' => do
    let text ← Outcome.ofNumeral argument.shown
    return place.pad (place.cut text.toList)
  | 'r' => do
    let text ← Outcome.ofNumeral argument.quoted
    return place.pad (place.cut text.toList)
  | 'a' => do
    let text ← Outcome.ofNumeral argument.quoted
    return place.pad (place.cut (asciiOnly text.toList))
  | 'c' => (charOf argument).map fun c => place.pad [c]
  | _ =>
    if letter = 'd' ∨ letter = 'i' ∨ letter = 'u' then
      match wholeOf? argument, argument with
      | some n, _ => do
        let _ ← Outcome.ofNumeral (writeInt n)
        return place.writeIntIn 10 [] false n
      | none, .float d =>
        match truncated? d with
        | some n => .ok (place.writeIntIn 10 [] false n)
        | none =>
          if d = .nan then .error (.raised .badValue (some "cannot convert float NaN to integer"))
          else .error (.raised .overflow (some "cannot convert float infinity to integer"))
      | none, other =>
        .error (.misfit ("%" ++ String.ofList [letter] ++ " format: a real number is required, not " ++ other.kindName))
    else if letter = 'x' ∨ letter = 'X' ∨ letter = 'o' then
      match wholeOf? argument with
      | some n =>
        let base := if letter = 'o' then 8 else 16
        .ok (place.writeIntIn base ['0', letter] (letter = 'X') n)
      | none =>
        .error (.misfit ("%" ++ String.ofList [letter] ++ " format: an integer is required, not " ++ argument.kindName))
    else (doubleOf argument).map (place.writeDouble letter)

inductive Supply where
  | row (values : List Value)
  | named (source : Value) (next? : Option Value)

/-- What a single value supplies: the items of a tuple in a row, the parts of a dictionary or a list
by name, and any other value itself. -/
def Supply.ofValue : Value → Supply
  | .tuple items => .row items
  | .dict entries => .named (.dict entries) (some (.dict entries))
  | .list items => .named (.list items) (some (.list items))
  | value => .row [value]

def nothingLeft : Fault :=
  .misfit "not enough arguments for format string"

def Supply.take : Supply → Outcome (Value × Supply)
  | .row (value :: values) => .ok (value, .row values)
  | .named source (some value) => .ok (value, .named source none)
  | _ => .error nothingLeft

def Supply.finish : Supply → Outcome Unit
  | .row (_ :: _) => .error (.misfit "not all arguments converted during string formatting")
  | _ => .ok ()

/-- A place as far as it has been read: what is left to be put in, and the text that is left. -/
structure Reading where
  supply : Supply
  place : Place
  rest : List Char

def readName : (depth : Nat) → List Char → Option (List Char × List Char)
  | _, [] => none
  | depth, c :: rest =>
    if c = ')' ∧ depth = 0 then some ([], rest)
    else
      let depth := if c = '(' then depth + 1 else if c = ')' then depth - 1 else depth
      (readName depth rest).map fun (name, tail) => (c :: name, tail)

/-- The part of a value that has a name; the items of a list have none. -/
def partNamed (source : Value) (name : String) : Outcome Value :=
  match source with
  | .dict entries =>
    match Entries.get? entries name with
    | some value => .ok value
    | none => .error (.noKey (Text.quotedString name))
  | _ => .error (.misfit "list indices must be integers or slices, not str")

/-- Read the name of an argument, if there is one; the value under it is the next one. -/
def readChoice (supply : Supply) (s : List Char) : Outcome Reading :=
  match s, supply with
  | '(' :: _, .row _ => .error (.misfit "format requires a mapping")
  | '(' :: rest, .named source _ =>
    match readName 0 rest with
    | none => .error (.raised .badValue (some "incomplete format key"))
    | some (name, tail) => do
      let value ← partNamed source (String.ofList name)
      return ⟨.named source (some value), .bare, tail⟩
  | _, _ => .ok ⟨supply, .bare, s⟩

def readFlags : List Char → Place → Place × List Char
  | [], place => (place, [])
  | c :: rest, place =>
    match c with
    | '-' => readFlags rest { place with left := true }
    | '+' => readFlags rest { place with sign := true }
    | ' ' => readFlags rest { place with blank := true }
    | '#' => readFlags rest { place with alternate := true }
    | '0' => readFlags rest { place with zeros := true }
    | _ => (place, c :: rest)

/-- The number that a run of ASCII digits at the front of a text writes, and the text after it. -/
def readDigits (s : List Char) : Nat × List Char :=
  (asciiValue (s.takeWhile isAsciiDigit), s.dropWhile isAsciiDigit)

def widthLimit : Nat := 9223372036854775807

def precisionLimit : Nat := 2147483647

/-- Take an integer for a width or a precision; `limit` is the largest one and `kind` its name. -/
def Supply.takeWhole (limit : Nat) (kind : String) (supply : Supply) : Outcome (Int × Supply) := do
  let (value, supply) ← supply.take
  match wholeOf? value with
  | none => throw (.misfit "* wants int")
  | some n =>
    if n < -(limit + 1 : Int) || (limit : Int) < n then
      throw (.raised .overflow (some ("Python int too large to convert to C " ++ kind)))
    else return (n, supply)

-- Read a width, or take it where a star stands for it; a negative one puts the fill behind.
def readWidth (reading : Reading) : Outcome Reading :=
  match reading.rest with
  | '*' :: rest => do
    let (n, supply) ← reading.supply.takeWhole widthLimit "ssize_t"
    let place := { reading.place with left := reading.place.left || n < 0, width := n.natAbs }
    return ⟨supply, place, rest⟩
  | s =>
    let (width, rest) := readDigits s
    if widthLimit < width then .error (.raised .badValue (some "width too big"))
    else .ok { reading with place := { reading.place with width }, rest }

-- Read a precision behind a point, or take it where a star stands for it; a negative one is
-- zero.
def readPrecision (reading : Reading) : Outcome Reading :=
  match reading.rest with
  | '.' :: '*' :: rest => do
    let (n, supply) ← reading.supply.takeWhole precisionLimit "int"
    return ⟨supply, { reading.place with precision? := some n.toNat }, rest⟩
  | '.' :: s =>
    let (precision, rest) := readDigits s
    if precisionLimit < precision then .error (.raised .badValue (some "precision too big"))
    else .ok { reading with place := { reading.place with precision? := some precision }, rest }
  | _ => .ok reading

def skipSize : List Char → List Char
  | c :: rest => if c = 'h' ∨ c = 'l' ∨ c = 'L' then rest else c :: rest
  | [] => []

def placeLetters : List Char :=
  ['s', 'r', 'a', 'c', 'd', 'i', 'u', 'x', 'X', 'o', 'e', 'E', 'f', 'F', 'g', 'G']

def unknownLetter (letter : Char) (position : Nat) : Fault :=
  let shown := if 31 ≤ letter.toNat && letter.toNat < 127 then letter else '?'
  .raised .badValue (some ("unsupported format character '" ++ String.ofList [shown] ++ "' (0x" ++
    String.ofList (baseDigits 16 letter.toNat) ++ ") at index " ++ natText position))

/-- Fill a place, whose text begins behind its percent sign. The answer is what is written, what is
left to be put in and the text that is left; `length` is the length of the whole message. -/
def fillPlace (length : Nat) (supply : Supply) (s : List Char) : Outcome (List Char × Supply × List Char) := do
  let chosen ← readChoice supply s
  let (place, rest) := readFlags chosen.rest chosen.place
  let reading ← readWidth { chosen with place, rest } >>= readPrecision
  match skipSize reading.rest with
  | [] => throw (.raised .badValue (some "incomplete format"))
  | letter :: rest => do
    let (argument, supply) ← reading.supply.take
    if !placeLetters.contains letter then throw (unknownLetter letter (length - rest.length - 1))
    let written ← reading.place.write letter argument
    return (written, supply, rest)

/-- Fill the places of a message. `length` is the length of the whole message; the second argument
bounds the number of characters still to be read. -/
def fillFrom (length : Nat) : (fuel : Nat) → Supply → List Char → Outcome (List Char)
  | _, supply, [] => supply.finish.map fun _ => []
  | 0, _, _ :: _ => .ok []
  | fuel + 1, supply, '%' :: '%' :: rest => do return '%' :: (← fillFrom length fuel supply rest)
  | fuel + 1, supply, '%' :: rest => do
    let (written, supply, rest) ← fillPlace length supply rest
    return written ++ (← fillFrom length fuel supply rest)
  | fuel + 1, supply, c :: rest => do return c :: (← fillFrom length fuel supply rest)

/-- What the arguments of a message supply: a single dictionary that is not empty its parts, and any
other arguments themselves. -/
def Supply.ofArguments : List Value → Supply
  | [.dict (entry :: entries)] => .ofValue (.dict (entry :: entries))
  | values => .row values

def fill (message : String) (supply : Supply) : Outcome String := do
  let s := message.toList
  return String.ofList (← fillFrom s.length s.length supply s)

end Stencil.Log
