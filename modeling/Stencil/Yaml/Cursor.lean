/-! Where a reader stands in the text of a document, and what it sees there. -/

set_option autoImplicit false

namespace Stencil.Yaml

def isBreak (c : Char) : Bool :=
  c == '\n' || c == '\r' || c == '\u0085' || c == '\u2028' || c == '\u2029'

def isGap (c : Char) : Bool :=
  c == ' ' || c == '\t' || isBreak c

def atGap : List Char → Bool
  | [] => true
  | c :: _ => isGap c

def keptBreak (c : Char) : Char :=
  if c = '\u2028' ∨ c = '\u2029' then c else '\n'

/-- What a first line break and the breaks after it are folded to: one break counts as a space, and of
several breaks all but the first are kept. -/
def folded (first : Char) (more : List Char) : List Char :=
  if keptBreak first != '\n' then first :: more
  else if more.isEmpty then [' ']
  else more

structure Cursor where
  line : Nat
  column : Nat
  offset : Nat
  rest : List Char
  deriving Repr

namespace Cursor

def start (s : List Char) : Cursor := ⟨0, 0, 0, s⟩

def next (cursor : Cursor) : Cursor :=
  match cursor.rest with
  | [] => cursor
  | c :: rest =>
    if isBreak c then ⟨cursor.line + 1, 0, cursor.offset + 1, rest⟩
    else ⟨cursor.line, if c = '\ufeff' then cursor.column else cursor.column + 1, cursor.offset + 1, rest⟩

def forward : Nat → Cursor → Cursor
  | 0, cursor => cursor
  | count + 1, cursor => forward count cursor.next

-- The characters from a place on as long as they are in a class, and the place behind them.
def span (cursor : Cursor) (inClass : Char → Bool) : List Char × Cursor :=
  let run := cursor.rest.takeWhile inClass
  (run, cursor.forward run.length)

def atMark (cursor : Cursor) (mark : Char) : Bool :=
  cursor.column == 0 && match cursor.rest with
    | a :: b :: c :: rest => a == mark && b == mark && c == mark && atGap rest
    | _ => false

def atDocumentMark (cursor : Cursor) : Bool :=
  cursor.atMark '-' || cursor.atMark '.'

end Cursor

/-- How many characters of a text are spaces, comments and line breaks before anything else, and
whether a new line has begun. -/
def blankRun (inComment : Bool) : List Char → Nat × Bool
  | [] => (0, false)
  | c :: rest =>
    if isBreak c then ((blankRun false rest).1 + 1, true)
    else if inComment || c == ' ' || c == '#' then
      let (count, fresh) := blankRun (inComment || c == '#') rest
      (count + 1, fresh)
    else (0, false)

def Cursor.toToken (cursor : Cursor) : Cursor × Bool :=
  let (count, fresh) := blankRun false cursor.rest
  (cursor.forward count, fresh)

theorem Cursor.rest_next (cursor : Cursor) : cursor.next.rest = cursor.rest.tail := by
  unfold next
  split
  · simp_all
  · split <;> simp_all

theorem Cursor.rest_forward (count : Nat) (cursor : Cursor) :
    (cursor.forward count).rest = cursor.rest.drop count := by
  induction count generalizing cursor with
  | zero => rfl
  | succ count ih => rw [forward, ih, rest_next, List.drop_tail]

end Stencil.Yaml
