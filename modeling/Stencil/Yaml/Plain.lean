import Stencil.Yaml.Cursor

/-! Plain scalars, which stand without quotes.

A plain scalar is made of words with gaps between them, and may go on over several lines. It ends
before a comment, before a colon with a gap after it, inside brackets before every mark of theirs,
and outside of brackets before a line that begins too far left.
-/

set_option autoImplicit false

namespace Stencil.Yaml

def reserved : List Char :=
  ['-', '?', ':', ',', '[', ']', '{', '}', '#', '&', '*', '!', '|', '>', '\'', '"', '%', '@', Char.ofNat 96]

def beginsPlain (inFlow : Bool) : List Char → Bool
  | [] => false
  | c :: rest =>
    if isGap c then false
    else if !reserved.contains c then true
    else !atGap rest && (c == '-' || (!inFlow && (c == '?' || c == ':')))

def isFlowMark (c : Char) : Bool :=
  c == ',' || c == '?' || c == '[' || c == ']' || c == '{' || c == '}'

def colonEnds (inFlow : Bool) : List Char → Bool
  | [] => true
  | c :: _ => isGap c || (inFlow && (c == ',' || c == '[' || c == ']' || c == '{' || c == '}'))

def plainWord (inFlow : Bool) : List Char → List Char
  | [] => []
  | c :: rest =>
    if isGap c || (c == ':' && colonEnds inFlow rest) || (inFlow && isFlowMark c) then []
    else c :: plainWord inFlow rest

/-- A part of a plain scalar that was read: its text, the place behind it, and whether that is on a new
line since the last word. -/
structure PlainPart where
  text : List Char
  place : Cursor
  fresh : Bool

def plainBreaks : (fuel : Nat) → Cursor → Option (List Char) × Cursor
  | 0, cursor => (none, cursor)
  | fuel + 1, cursor =>
    if cursor.atDocumentMark then (none, cursor)
    else
      let (_, after) := cursor.span (· == ' ')
      match after.rest with
      | c :: _ =>
        if isBreak c then
          let (breaks?, place) := plainBreaks fuel after.next
          (breaks?.map (keptBreak c :: ·), place)
        else (some [], after)
      | [] => (some [], after)

-- The gap behind a word; its text is what it stands for if another word follows.
def plainGap (fuel : Nat) (cursor : Cursor) : PlainPart :=
  let (blanks, after) := cursor.span (· == ' ')
  match after.rest with
  | c :: _ =>
    if isBreak c then
      let (breaks?, place) := plainBreaks fuel after.next
      ⟨(breaks?.map (folded c)).getD [], place, true⟩
    else ⟨blanks, after, false⟩
  | [] => ⟨blanks, after, false⟩

/-- Read the words of a plain scalar whose further lines begin at least at column `least`. The gap
behind the last word is passed over; `fresh` tells whether the gap before the cursor began a new line. -/
def readWords (inFlow : Bool) (least : Nat) : (fuel : Nat) → (fresh : Bool) → Cursor → PlainPart
  | 0, fresh, cursor => ⟨[], cursor, fresh⟩
  | fuel + 1, fresh, cursor =>
    let word := if cursor.rest.head? == some '#' then [] else plainWord inFlow cursor.rest
    if word.isEmpty then ⟨[], cursor, fresh⟩
    else
      let gap := plainGap fuel (cursor.forward word.length)
      if gap.text.isEmpty || gap.place.rest.head? == some '#' || (!inFlow && gap.place.column < least) then
        ⟨word, gap.place, gap.fresh⟩
      else
        let more := readWords inFlow least fuel gap.fresh gap.place
        ⟨if more.text.isEmpty then word else word ++ gap.text ++ more.text, more.place, more.fresh⟩

def readPlain (inFlow : Bool) (least : Nat) (cursor : Cursor) : PlainPart :=
  readWords inFlow least (cursor.rest.length + 1) false cursor

end Stencil.Yaml
