import Stencil.Yaml.Plain
import Stencil.Yaml.Quoted

/-! Tokens: the marks and scalars of a document in a row.

The columns of blocks become tokens where a block opens and where it closes. A colon makes a key of
what stands before it on its line; that is known only when the colon is reached, so the token of
the key is put in afterwards.
-/

set_option autoImplicit false

namespace Stencil.Yaml

inductive Bracket where
  | square
  | curly
  deriving DecidableEq, Repr

inductive Token where
  | documentStart
  | documentEnd
  | blockSequence
  | blockMapping
  | blockEnd
  | opening (bracket : Bracket)
  | closing (bracket : Bracket)
  | comma
  | item
  | key
  | value
  | anchor (name : List Char)
  | aliased (name : List Char)
  | scalar (isPlain : Bool) (text : List Char)
  | unreadable (fault : Fault)
  deriving Repr

structure Candidate where
  number : Nat
  required : Bool
  line : Nat
  column : Nat
  offset : Nat
  deriving Repr

structure Lexer where
  cursor : Cursor
  tokens : Array Token
  columns : List Nat
  -- The candidates for a key: one of the innermost brackets, and one of each pair of brackets
  -- around those and of the text outside of all brackets.
  candidate? : Option Candidate
  outer : List (Option Candidate)
  keysAllowed : Bool

namespace Lexer

def start (s : List Char) : Lexer where
  cursor := .start s
  tokens := #[]
  columns := []
  candidate? := none
  outer := []
  keysAllowed := true

def inFlow (lexer : Lexer) : Bool :=
  !lexer.outer.isEmpty

def standsIn (lexer : Lexer) (column : Nat) : Bool :=
  lexer.columns.head? == some column

def emit (lexer : Lexer) (token : Token) : Lexer :=
  { lexer with tokens := lexer.tokens.push token }

def skip (count : Nat) (lexer : Lexer) : Lexer :=
  { lexer with cursor := lexer.cursor.forward count }

def allowKeys (allowed : Bool) (lexer : Lexer) : Lexer :=
  { lexer with keysAllowed := allowed }

def closeBlocks (lexer : Lexer) (column? : Option Nat) : Lexer :=
  if lexer.inFlow then lexer
  else
    let isRight := fun block => column?.all (· < block)
    { lexer with
      tokens := lexer.tokens ++ (lexer.columns.takeWhile isRight).map fun _ => Token.blockEnd
      columns := lexer.columns.dropWhile isRight }

/-- Open a block in a column, unless the innermost block stands there or further right; its token is
put in at the given number. -/
def openBlock (lexer : Lexer) (column number : Nat) (token : Token) : Lexer :=
  if lexer.columns.head?.any (column ≤ ·) then lexer
  else { lexer with columns := column :: lexer.columns, tokens := lexer.tokens.insertIdxIfInBounds number token }

/-- Drop the candidate for a key; a key that has to be there is missing then. -/
def dropCandidate (lexer : Lexer) : Outcome Lexer :=
  if lexer.candidate?.any (·.required) then .error .yaml else .ok { lexer with candidate? := none }

def noteCandidate (lexer : Lexer) : Outcome Lexer :=
  if lexer.keysAllowed then do
    let lexer ← lexer.dropCandidate
    let place := lexer.cursor
    let required := !lexer.inFlow && lexer.standsIn place.column
    return { lexer with
      candidate? := some ⟨lexer.tokens.size, required, place.line, place.column, place.offset⟩ }
  else .ok lexer

def keyLimit : Nat := 1024

def Candidate.isStale (place : Cursor) (candidate : Candidate) : Bool :=
  candidate.line != place.line || keyLimit < place.offset - candidate.offset

def missesKey (place : Cursor) (candidate? : Option Candidate) : Bool :=
  candidate?.any fun candidate => candidate.required && Candidate.isStale place candidate

def recent? (place : Cursor) (candidate? : Option Candidate) : Option Candidate :=
  candidate?.filter fun candidate => !Candidate.isStale place candidate

def dropStale (lexer : Lexer) : Outcome Lexer :=
  if missesKey lexer.cursor lexer.candidate? || lexer.outer.any (missesKey lexer.cursor) then .error .yaml
  else .ok { lexer with
    candidate? := recent? lexer.cursor lexer.candidate?
    outer := lexer.outer.map (recent? lexer.cursor) }

def readDocumentMark (lexer : Lexer) (token : Token) : Outcome Lexer := do
  let lexer ← (lexer.closeBlocks none).dropCandidate
  return ((lexer.allowKeys false).emit token).skip 3

def readOpening (lexer : Lexer) (bracket : Bracket) : Outcome Lexer := do
  let lexer ← lexer.noteCandidate
  let inner := { lexer with candidate? := none, outer := lexer.candidate? :: lexer.outer, keysAllowed := true }
  return (inner.emit (.opening bracket)).skip 1

def readClosing (lexer : Lexer) (bracket : Bracket) : Outcome Lexer := do
  let lexer ← lexer.dropCandidate
  match lexer.outer with
  | [] => throw .yaml
  | candidate? :: outer =>
    return ({ lexer with candidate?, outer, keysAllowed := false }.emit (.closing bracket)).skip 1

def readMark (lexer : Lexer) (token : Token) (keysAfter : Bool) : Outcome Lexer := do
  let lexer ← lexer.dropCandidate
  return ((lexer.allowKeys keysAfter).emit token).skip 1

/-- Read a mark that opens a block where there is none yet; it has to stand where a key may begin. -/
def readBlockMark (lexer : Lexer) (block token : Token) (keysAfter : Bool) : Outcome Lexer :=
  if lexer.inFlow then lexer.readMark token keysAfter
  else if lexer.keysAllowed then (lexer.openBlock lexer.cursor.column lexer.tokens.size block).readMark token keysAfter
  else .error .yaml

/-- Put in the token of a key in front of the token with the candidate's number, and open a block
mapping there if none is open in its column. -/
def makeKey (lexer : Lexer) (candidate : Candidate) : Lexer :=
  let lexer := { lexer with
    candidate? := none
    tokens := lexer.tokens.insertIdxIfInBounds candidate.number .key
    keysAllowed := false }
  if lexer.inFlow then lexer else lexer.openBlock candidate.column candidate.number .blockMapping

def readColon (lexer : Lexer) : Outcome Lexer :=
  match lexer.candidate? with
  | some candidate => .ok (((lexer.makeKey candidate).emit .value).skip 1)
  | none => lexer.readBlockMark .blockMapping .value (!lexer.inFlow)

def isNameChar (c : Char) : Bool :=
  ('0' ≤ c && c ≤ '9') || ('A' ≤ c && c ≤ 'Z') || ('a' ≤ c && c ≤ 'z') || c == '-' || c == '_'

def endsName (rest : List Char) : Bool :=
  atGap rest || rest.head?.any "?:,]\x7d%@\x60".toList.contains

/-- Read the name behind the mark of an anchor or an alias. -/
def readName (lexer : Lexer) (token : List Char → Token) : Outcome Lexer := do
  let lexer ← lexer.noteCandidate
  let (name, place) := lexer.cursor.next.span isNameChar
  if name.isEmpty || !endsName place.rest then .error .yaml
  else .ok { (lexer.allowKeys false).emit (token name) with cursor := place }

def readQuotedScalar (lexer : Lexer) (quote : Char) : Outcome Lexer := do
  let lexer ← lexer.noteCandidate
  let (text, place) ← readQuoted quote lexer.cursor
  return { (lexer.allowKeys false).emit (.scalar false text) with cursor := place }

def readPlainScalar (lexer : Lexer) : Outcome Lexer := do
  let lexer ← lexer.noteCandidate
  let least := (lexer.columns.head?.map (· + 1)).getD 0
  let part := readPlain lexer.inFlow least lexer.cursor
  return { (lexer.allowKeys part.fresh).emit (.scalar true part.text) with cursor := part.place }

-- Go on to the next place where something stands, and close the blocks that end before it.
def approach (lexer : Lexer) : Outcome Lexer := do
  let (place, fresh) := lexer.cursor.toToken
  let lexer := { lexer with cursor := place, keysAllowed := lexer.keysAllowed || (fresh && !lexer.inFlow) }
  let lexer ← lexer.dropStale
  return lexer.closeBlocks (some lexer.cursor.column)

def readAt (lexer : Lexer) (c : Char) (rest : List Char) : Outcome Lexer :=
  let isIndicator := lexer.inFlow || atGap rest
  if lexer.cursor.atMark '-' then lexer.readDocumentMark .documentStart
  else if lexer.cursor.atMark '.' then lexer.readDocumentMark .documentEnd
  else if c = '[' then lexer.readOpening .square
  else if c = '{' then lexer.readOpening .curly
  else if c = ']' then lexer.readClosing .square
  else if c = '}' then lexer.readClosing .curly
  else if c = ',' then lexer.readMark .comma true
  else if c = '-' ∧ atGap rest then lexer.readBlockMark .blockSequence .item true
  else if c = '?' ∧ isIndicator then lexer.readBlockMark .blockMapping .key (!lexer.inFlow)
  else if c = ':' ∧ isIndicator then lexer.readColon
  else if c = '*' then lexer.readName .aliased
  else if c = '&' then lexer.readName .anchor
  else if c = '\'' ∨ c = '"' then lexer.readQuotedScalar c
  else if beginsPlain lexer.inFlow (c :: rest) then lexer.readPlainScalar
  else .error .yaml

/-- Read the next token, with those that come with it; at the end of the text all blocks close and
there is nothing more to read. -/
def advance (lexer : Lexer) : Outcome (Lexer × Bool) := do
  let lexer ← lexer.approach
  match lexer.cursor.rest with
  | [] => return (← (lexer.closeBlocks none).dropCandidate, false)
  | c :: rest => return (← lexer.readAt c rest, true)

def certain (lexer : Lexer) : Nat :=
  ((lexer.candidate? :: lexer.outer).filterMap (recent? lexer.cursor)).foldl
    (fun least candidate => min least candidate.number) lexer.tokens.size

/-- Read tokens up to the end of the text. Where the text cannot be read, the tokens that are certain
by then are followed by the fault. -/
def run : (fuel : Nat) → Lexer → List Token
  | 0, lexer => lexer.tokens.toList
  | fuel + 1, lexer =>
    match lexer.advance with
    | .error fault => lexer.tokens.toList.take lexer.certain ++ [.unreadable fault]
    | .ok (next, more) => if more then run fuel next else next.tokens.toList

end Lexer

-- The tokens of a text; a byte order mark in front of it means nothing.
def tokens (s : List Char) : List Token :=
  let lexer := Lexer.start s
  (if s.head? == some '\ufeff' then lexer.skip 1 else lexer).run (s.length + 1)

end Stencil.Yaml
