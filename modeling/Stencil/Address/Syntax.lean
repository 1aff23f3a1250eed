import Stencil.Number.Integer
import Stencil.Text.Blank
import Stencil.Text.Split

/-! Addresses: how a place inside nested data is written.

An address is a row of segments with points between them. A segment is a name with brackets after
it, or brackets alone; a bracket holds a quoted key, an index or a bare key. Reading an address
gives its steps, or nothing if the text is not an address.
-/

set_option autoImplicit false

namespace Stencil.Address

open Text Number

/-- One step from a value to a value inside it. -/
inductive Step where
  | name (s : String)
  | index (n : Nat)
  deriving DecidableEq, Repr

def Step.shown : Step → String
  | .name s => quotedString s
  | .index n => natText n

def isQuote (c : Char) : Bool :=
  c == '"' || c == '\''

def isNameChar (c : Char) : Bool :=
  c != '.' && c != '[' && c != ']'

/-- The body of a bracket that has just been opened, and the text after the bracket. A body that
begins with a quote ends at the next quote of its kind, right before the closing bracket. -/
def bracketBody? : List Char → Option (List Char × List Char)
  | [] => none
  | c :: rest =>
    if isQuote c then
      match cutAtChar? c rest with
      | some (key, ']' :: tail) => some (c :: key ++ [c], tail)
      | _ => none
    else cutAtChar? ']' (c :: rest)

def unquoted? : List Char → Option (List Char)
  | [] => none
  | q :: rest => if isQuote q && rest.getLast? == some q then some rest.dropLast else none

def bracketStep (body : List Char) : Except NumeralFault Step :=
  let body := trim body
  match unquoted? body with
  | some key => .ok (.name (String.ofList key))
  | none =>
    if allDigitSigns body then (readNat body).map .index else .ok (.name (String.ofList body))

theorem cutAtChar?_length {separator : Char} {s before tail : List Char}
    (found : cutAtChar? separator s = some (before, tail)) : tail.length < s.length := by
  induction s generalizing before with
  | nil => simp [cutAtChar?] at found
  | cons c rest ih =>
    simp only [cutAtChar?] at found
    split at found
    · simp only [Option.some.injEq, Prod.mk.injEq] at found
      simp [← found.2]
    · simp only [Option.map_eq_some_iff, Prod.mk.injEq, Prod.exists] at found
      obtain ⟨front, rest', cut, -, rfl⟩ := found
      have := ih cut
      simp only [List.length_cons]
      omega

theorem bracketBody?_length {s body tail : List Char} (found : bracketBody? s = some (body, tail)) :
    tail.length < s.length := by
  cases s with
  | nil => simp [bracketBody?] at found
  | cons c rest =>
    simp only [bracketBody?] at found
    split at found
    · split at found
      · rename_i key after cut
        simp only [Option.some.injEq, Prod.mk.injEq] at found
        obtain ⟨-, rfl⟩ := found
        have := cutAtChar?_length cut
        simp only [List.length_cons] at this ⊢
        omega
      · simp at found
    · exact cutAtChar?_length found

/-- Read steps up to the end of the text; `expectsName` holds at the start and after a point. -/
def readSteps (expectsName : Bool) : List Char → Except NumeralFault (Option (List Step))
  | [] => .ok (some [])
  | c :: rest =>
    if c = '[' then
      match _found : bracketBody? rest with
      | none => .ok none
      | some (body, tail) => do
        let step ← bracketStep body
        let steps? ← readSteps false tail
        return steps?.map (step :: ·)
    else if c = '.' then
      if expectsName || rest.isEmpty then .ok none else readSteps true rest
    else if c = ']' || !expectsName then .ok none
    else do
      let name := c :: rest.takeWhile isNameChar
      let steps? ← readSteps false (rest.dropWhile isNameChar)
      return steps?.map (.name (String.ofList (trim name)) :: ·)
termination_by s => s.length
decreasing_by
  · have := bracketBody?_length _found
    simp only [List.length_cons]
    omega
  · simp
  · have := (List.dropWhile_sublist isNameChar (l := rest)).length_le
    simp only [List.length_cons]
    omega

-- The steps of an address; a text that is not an address has none.
def parse (address : String) : Except NumeralFault (Option (List Step)) := do
  match ← readSteps true address.toList with
  | some (step :: steps) => return some (step :: steps)
  | _ => return none

end Stencil.Address
