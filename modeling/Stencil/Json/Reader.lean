import Stencil.Fault
import Stencil.Number.Reading

/-! Values from JSON text.

The reader keeps the text that is still to be read; the position of a fault is what has been read
up to it. Of two members with one name the later value counts, in the place of the first. The words
for the numbers without a numeral are read too.
-/

set_option autoImplicit false

namespace Stencil.Json

open Number (NumeralFault isAsciiDigit asciiValue)

/-- Why reading stopped: what was wrong and how much text was left, or a numeral that cannot be read. -/
inductive Stop where
  | at (problem : String) (left : Nat)
  | numeral (fault : NumeralFault)
  deriving DecidableEq, Repr

def skipSpace (s : List Char) : List Char :=
  s.dropWhile fun c => c == ' ' || c == '\t' || c == '\n' || c == '\r'

def hexValue? (c : Char) : Option Nat :=
  if '0' ≤ c ∧ c ≤ '9' then some (c.toNat - 48)
  else if 'a' ≤ c ∧ c ≤ 'f' then some (c.toNat - 87)
  else if 'A' ≤ c ∧ c ≤ 'F' then some (c.toNat - 55)
  else none

def fourHex? : List Char → Option (Nat × List Char)
  | a :: b :: c :: d :: e :: rest => do
    let value := 4096 * (← hexValue? a) + 256 * (← hexValue? b) + 16 * (← hexValue? c) + (← hexValue? d)
    return (value, e :: rest)
  | _ => none

def letterEscape? (c : Char) : Option Char :=
  if c = '"' ∨ c = '\\' ∨ c = '/' then some c
  else if c = 'b' then some '\x08'
  else if c = 'f' then some '\x0c'
  else if c = 'n' then some '\n'
  else if c = 'r' then some '\r'
  else if c = 't' then some '\t'
  else none

-- The first half of a pair of code units for one character.
def isHighUnit (n : Nat) : Bool := 0xD800 ≤ n && n ≤ 0xDBFF

-- The second half of a pair of code units for one character.
def isLowUnit (n : Nat) : Bool := 0xDC00 ≤ n && n ≤ 0xDFFF

/-- The character of a code unit that stands alone; half a pair has no character. -/
def unitChar (n : Nat) : Char :=
  if isHighUnit n || isLowUnit n then '\ufffd' else Char.ofNat n

/-- Read the rest of a string; `opening` is how much text was left at its opening quote. -/
def readText (opening : Nat) : (fuel : Nat) → List Char → Except Stop (List Char × List Char)
  | 0, _ => .error (.at "Unterminated string starting at" opening)
  | _ + 1, [] => .error (.at "Unterminated string starting at" opening)
  | fuel + 1, c :: rest =>
    if c = '"' then .ok ([], rest)
    else if c = '\\' then
      match rest with
      | [] => .error (.at "Unterminated string starting at" opening)
      | 'u' :: digits =>
        match fourHex? digits with
        | none => .error (.at "Invalid \\uXXXX escape" (digits.length + 1))
        | some (high, after) =>
          match isHighUnit high && 6 < after.length, after with
          | true, '\\' :: 'u' :: more =>
            match fourHex? more with
            | none => .error (.at "Invalid \\uXXXX escape" (more.length + 1))
            | some (low, later) =>
              if isLowUnit low then do
                let c := Char.ofNat (0x10000 + (high - 0xD800) * 0x400 + (low - 0xDC00))
                let (text, tail) ← readText opening fuel later
                return (c :: text, tail)
              else do
                let (text, tail) ← readText opening fuel after
                return (unitChar high :: text, tail)
          | _, _ => do
            let (text, tail) ← readText opening fuel after
            return (unitChar high :: text, tail)
      | letter :: after =>
        match letterEscape? letter with
        | none => .error (.at "Invalid \\escape" (rest.length + 1))
        | some c => do
          let (text, tail) ← readText opening fuel after
          return (c :: text, tail)
    else if c.toNat < 32 then .error (.at "Invalid control character at" (rest.length + 1))
    else do
      let (text, tail) ← readText opening fuel rest
      return (c :: text, tail)

def fraction : List Char → List Char × List Char
  | '.' :: rest =>
    let digits := rest.takeWhile isAsciiDigit
    if digits.isEmpty then ([], '.' :: rest) else (digits, rest.dropWhile isAsciiDigit)
  | rest => ([], rest)

/-- The exponent of a number: a letter, perhaps a sign, and at least one digit. -/
def exponent? (s : List Char) : Option (Int × List Char) :=
  match s with
  | [] => none
  | c :: rest =>
    if c = 'e' ∨ c = 'E' then
      let unsigned := match rest with
        | '+' :: digits => digits
        | '-' :: digits => digits
        | digits => digits
      let digits := unsigned.takeWhile isAsciiDigit
      if digits.isEmpty then none
      else
        let size : Int := asciiValue digits
        some (if rest.head? = some '-' then -size else size, unsigned.dropWhile isAsciiDigit)
    else none

/-- Read a number: an integer, or a floating-point number if it has a fraction or an exponent. -/
def readNumber (s : List Char) : Except Stop (Value × List Char) :=
  let (negative, body) := match s with
    | '-' :: rest => (true, rest)
    | rest => (false, rest)
  let (whole, rest) := match body with
    | '0' :: rest => (['0'], rest)
    | body => (body.takeWhile isAsciiDigit, body.dropWhile isAsciiDigit)
  if whole.isEmpty then .error (.at "Expecting value" s.length)
  else
    let (decimals, afterFraction) := fraction rest
    match exponent? afterFraction with
    | some (power, tail) =>
      let digits := (whole ++ decimals).dropWhile (· == '0')
      .ok (.float (.ofDecimal negative (asciiValue digits) digits.length (power - decimals.length)), tail)
    | none =>
      if decimals.isEmpty then
        if Number.digitLimit < whole.length then .error (.numeral (.tooManyDigits whole.length))
        else
          let size : Int := asciiValue whole
          .ok (.int (if negative then -size else size), rest)
      else
        let digits := (whole ++ decimals).dropWhile (· == '0')
        .ok (.float (.ofDecimal negative (asciiValue digits) digits.length (-(decimals.length : Int))), afterFraction)

def words : List (List Char × Value) :=
  [("null".toList, .null), ("true".toList, .bool true), ("false".toList, .bool false),
    ("NaN".toList, .float .nan), ("Infinity".toList, .float (.infinite false)),
    ("-Infinity".toList, .float (.infinite true))]

def afterWord? (word s : List Char) : Option (List Char) :=
  if word.isPrefixOf s then some (s.drop word.length) else none

def readScalar (s : List Char) : Except Stop (Value × List Char) :=
  match words.findSome? fun (word, value) => (afterWord? word s).map fun rest => (value, rest) with
  | some found => .ok found
  | none => readNumber s

mutual
def readValue : (fuel : Nat) → List Char → Except Stop (Value × List Char)
  | 0, s => .error (.at "Expecting value" s.length)
  | fuel + 1, s =>
    match s with
    | [] => .error (.at "Expecting value" 0)
    | '"' :: rest => do
      let (text, tail) ← readText s.length (rest.length + 1) rest
      return (.text (String.ofList text), tail)
    | '\x7b' :: rest =>
      match skipSpace rest with
      | '\x7d' :: tail => .ok (.dict [], tail)
      | body => do
        let (members, tail) ← readMembers fuel body
        return (.dict (Entries.ofPairs members), tail)
    | '[' :: rest =>
      match skipSpace rest with
      | ']' :: tail => .ok (.list [], tail)
      | body => do
        let (items, tail) ← readItems fuel body
        return (.list items, tail)
    | s => readScalar s
def readMembers : (fuel : Nat) → List Char → Except Stop (List (Value × Value) × List Char)
  | 0, s => .error (.at "Expecting property name enclosed in double quotes" s.length)
  | fuel + 1, s =>
    match s with
    | '"' :: rest => do
      let (name, afterName) ← readText s.length (rest.length + 1) rest
      match skipSpace afterName with
      | ':' :: afterColon =>
        let (value, afterValue) ← readValue fuel (skipSpace afterColon)
        let member := (Value.text (String.ofList name), value)
        match skipSpace afterValue with
        | '\x7d' :: tail => return ([member], tail)
        | ',' :: more =>
          let (members, tail) ← readMembers fuel (skipSpace more)
          return (member :: members, tail)
        | other => .error (.at "Expecting ',' delimiter" other.length)
      | other => .error (.at "Expecting ':' delimiter" other.length)
    | s => .error (.at "Expecting property name enclosed in double quotes" s.length)
def readItems : (fuel : Nat) → List Char → Except Stop (List Value × List Char)
  | 0, s => .error (.at "Expecting value" s.length)
  | fuel + 1, s => do
    let (item, afterItem) ← readValue fuel s
    match skipSpace afterItem with
    | ']' :: tail => return ([item], tail)
    | ',' :: more =>
      let (items, tail) ← readItems fuel (skipSpace more)
      return (item :: items, tail)
    | other => .error (.at "Expecting ',' delimiter" other.length)
end

def positionText (s : List Char) (left : Nat) : String :=
  let read := s.take (s.length - left)
  let column := (read.reverse.takeWhile (· != '\n')).length + 1
  "line " ++ Number.natText (read.count '\n' + 1) ++ " column " ++ Number.natText column ++
    " (char " ++ Number.natText read.length ++ ")"

def Stop.fault (s : List Char) : Stop → Fault
  | .at problem left => .json (problem ++ ": " ++ positionText s left)
  | .numeral fault => .numeral fault

/-- Read a whole text as one value, up to how much text was left where it stopped. -/
def readAll (s : List Char) : Except Stop Value := do
  let (value, rest) ← readValue (s.length + 1) (skipSpace s)
  match skipSpace rest with
  | [] => return value
  | extra => .error (.at "Extra data" extra.length)

def read (text : String) : Outcome Value :=
  let s := text.toList
  if s.head? = some '\ufeff' then
    .error (Stop.fault s (.at "Unexpected UTF-8 BOM (decode using utf-8-sig)" s.length))
  else (readAll s).mapError (Stop.fault s)

end Stencil.Json
