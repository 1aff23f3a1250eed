import Mathlib
import Stencil.Proofs.Composition
import Stencil.Proofs.EmptySteps
import Stencil.Proofs.FramedTokens
import Stencil.Proofs.LegibleTokens
import Stencil.Settings.Load

/-! What a section file means.

A section file is read without the blanks in front of its first character and behind its last one. It means what its
text says if these are blank lines: what indents the first line is lost, and so is the line break that ends a text in
block form. Which texts a reader of YAML accepts is left open. It is asked for what blank lines mean, and the reader
that the program runs with meets this.
-/

set_option autoImplicit false

namespace Stencil

open Text

namespace Yaml

variable {lead content trail : List Char}

theorem isBlank_of_isGap {c : Char} (gap : isGap c = true) : isBlank c = true := by
  simp only [isGap, isBreak, Bool.or_eq_true, beq_iff_eq] at gap
  rcases gap with (rfl | rfl) | (((rfl | rfl) | rfl) | rfl) | rfl <;> rfl

section Lead

/-- Blank lines that are passed over as a whole are passed over before what follows. -/
theorem blankRun_append_of_gaps (gaps : ∀ c ∈ lead, isGap c = true) (whole : (blankRun false lead).1 = lead.length)
    (rest : List Char) : (blankRun false (lead ++ rest)).1 = lead.length + (blankRun false rest).1 := by
  induction lead with
  | nil => simp
  | cons c lead ih =>
    obtain ⟨gap, gaps⟩ := List.forall_mem_cons.1 gaps
    have noComment : (c == '#') = false := by
      rw [beq_eq_false_iff_ne]
      rintro rfl
      cases gap
    rw [List.cons_append, blankRun]
    rw [blankRun] at whole
    split at whole
    · rename_i isBreak
      rw [if_pos isBreak, ih gaps (Nat.succ.inj whole), List.length_cons, Nat.add_right_comm]
    · rename_i noBreak
      rw [if_neg noBreak]
      split at whole
      · rename_i blank
        rw [if_pos blank]
        simp only [noComment, Bool.or_false] at whole ⊢
        rw [ih gaps (Nat.succ.inj whole), List.length_cons, Nat.add_right_comm]
      · cases whole

/-- Behind a line break stands a column zero. -/
theorem Cursor.column_forward_of_break (front rest : List Char) {c : Char} (isBreak : Yaml.isBreak c = true) :
    ((Cursor.start (front ++ c :: rest)).forward (front.length + 1)).column = 0 := by
  have here : ((Cursor.start (front ++ c :: rest)).forward front.length).rest = c :: rest := by
    rw [Cursor.rest_forward]
    simp [Cursor.start]
  rw [Cursor.forward_add]
  simp [Cursor.forward, Cursor.next, here, isBreak]

end Lead

section Tokens

variable {lexer other : Lexer} {fuel : Nat}

theorem Lexer.advance_of_legible (legible : Legible (lexer.run (fuel + 1))) :
    ∃ next goesOn, lexer.advance = .ok (next, goesOn) := by
  rw [run] at legible
  cases step : lexer.advance with
  | error fault =>
    rw [step] at legible
    exact absurd (List.mem_append_right _ List.mem_cons_self) (legible fault)
  | ok result => exact ⟨result.1, result.2, rfl⟩

/-- Readers that arrive at the same place read the same from there on. -/
theorem Lexer.run_eq_of_arrive (same : lexer.arrive = other.arrive) (legible : Legible (other.run (fuel + 1))) :
    lexer.run (fuel + 1) = other.run (fuel + 1) := by
  obtain ⟨next, goesOn, step⟩ := advance_of_legible legible
  have step' : lexer.advance = .ok (next, goesOn) := by
    rw [← step, advance_eq, advance_eq, approach_eq, approach_eq, same]
  rw [run, run, step, step']

/-- What is read of a text from its front on is what is read of it in a document. -/
theorem run_around {frame : Frame} (count : Nat) (enough : content.length + frame.trail.length ≤ fuel)
    (legible : Legible ((frame.around ((Lexer.start content).skip count)).run (fuel + 1))) :
    ((Lexer.start content).skip count).run (content.length + 1) =
      (frame.around ((Lexer.start content).skip count)).run (fuel + 1) := by
  have rest : ((Lexer.start content).skip count).cursor.rest = content.drop count := Cursor.rest_forward count _
  have length := List.length_drop (i := count) (l := content)
  refine Frame.run_place (Frame.tracks_around _) ?_ ?_ ?_ legible
  · rintro candidate (inner | among)
    · cases inner
    · cases among
  · rw [rest]
    omega
  · rw [show (frame.around ((Lexer.start content).skip count)).cursor.rest = content.drop count ++ frame.trail from
      congrArg (· ++ frame.trail) rest, List.length_append]
    omega

/-- Blank lines in front are passed over if the text behind them can be read. -/
theorem blankRun_lead (gaps : ∀ c ∈ lead, isGap c = true) {rest : List Char}
    (legible : Legible ((Lexer.start (lead ++ rest)).run (fuel + 1))) : (blankRun false lead).1 = lead.length := by
  by_contra partly
  have less := Nat.lt_of_le_of_ne (blankRun_le false lead) partly
  obtain ⟨next, goesOn, step⟩ := Lexer.advance_of_legible legible
  have here : (Lexer.start (lead ++ rest)).arrive.cursor.rest = lead.drop (blankRun false lead).1 ++ rest := by
    change ((Cursor.start (lead ++ rest)).forward (blankRun false (lead ++ rest)).1).rest = _
    rw [Cursor.rest_forward, blankRun_append_of_lt less, ← List.drop_append_of_le_length less.le]
    rfl
  obtain ⟨c, more, ahead⟩ := List.exists_cons_of_ne_nil (List.drop_eq_nil_iff.not.2 (Nat.not_le.2 less))
  rw [ahead] at here
  have gap : isGap c = true := gaps c (List.mem_of_mem_drop (ahead ▸ List.mem_cons_self))
  have ends := Lexer.rest_of_atGap (by rw [here]; exact gap) step
  rw [here] at ends
  cases ends

/-- A part that begins on a line of its own has the place behind the lines in front of it. -/
theorem exists_place (closed : ∀ c ∈ lead.getLast?, isBreak c = true)
    (gaps : ∀ c ∈ trail, isGap c = true) (content : List Char) : ∃ frame : Frame, frame.trail = trail ∧
      frame.place (.start content) = (Cursor.start (lead ++ (content ++ trail))).forward lead.length := by
  generalize behind : (Cursor.start (lead ++ (content ++ trail))).forward lead.length = cursor
  have rest : cursor.rest = content ++ trail := by
    rw [← behind, Cursor.rest_forward]
    simp [Cursor.start]
  have column : cursor.column = 0 := by
    rw [← behind]
    obtain rfl | ⟨front, c, rfl⟩ := List.eq_nil_or_concat lead
    · rfl
    · have isBreak : Yaml.isBreak c = true := closed c (by simp)
      simpa using Cursor.column_forward_of_break front (content ++ trail) isBreak
  refine ⟨⟨cursor.line, cursor.offset, trail, gaps⟩, rfl, ?_⟩
  obtain ⟨line, _, offset, _⟩ := cursor
  cases rest
  cases column
  simp [Frame.place, Cursor.start]

/-- A byte order mark in front of a text is passed over. -/
theorem tokens_eq_skip (s : List Char) :
    tokens s = ((Lexer.start s).skip (if s.head? = some '\ufeff' then 1 else 0)).run (s.length + 1) := by
  unfold tokens
  by_cases mark : s.head? = some '\ufeff' <;> simp [mark, Lexer.skip, Cursor.forward]

theorem head?_ne_of_gaps (gaps : ∀ c ∈ lead, isGap c = true) (more : lead ≠ []) (rest : List Char) :
    (lead ++ rest).head? ≠ some '\ufeff' := by
  obtain ⟨c, lead, rfl⟩ := List.exists_cons_of_ne_nil more
  rintro same
  cases Option.some.inj same
  cases gaps _ List.mem_cons_self

theorem arrive_behind_lead {frame : Frame} (leadGaps : ∀ c ∈ lead, isGap c = true)
    (whole : (blankRun false lead).1 = lead.length)
    (place : frame.place (.start content) = (Cursor.start (lead ++ (content ++ frame.trail))).forward lead.length) :
    (frame.around (Lexer.start content)).arrive = (Lexer.start (lead ++ (content ++ frame.trail))).arrive := by
  have reached : (frame.place (.start content)).toToken.1 =
      (Cursor.start (lead ++ (content ++ frame.trail))).toToken.1 := by
    have behind : (blankRun false (lead ++ (content ++ frame.trail))).1 =
        lead.length + (blankRun false (content ++ frame.trail)).1 := blankRun_append_of_gaps leadGaps whole _
    calc (frame.place (.start content)).toToken.1
      _ = (frame.place (.start content)).forward (blankRun false (content ++ frame.trail)).1 := rfl
      _ = (Cursor.start (lead ++ (content ++ frame.trail))).forward
          (blankRun false (lead ++ (content ++ frame.trail))).1 := by rw [place, behind, Cursor.forward_add]
      _ = _ := rfl
  simp only [Lexer.arrive, Frame.around, Lexer.start, reached]
  simp

/-- The tokens of a document are those of its part between the blank lines. -/
theorem tokens_between (leadGaps : ∀ c ∈ lead, isGap c = true) (trailGaps : ∀ c ∈ trail, isGap c = true)
    (closed : ∀ c ∈ lead.getLast?, isBreak c = true) (unmarked : lead = [] ∨ content.head? ≠ some '\ufeff')
    (filled : content ≠ []) (legible : Legible (tokens (lead ++ (content ++ trail)))) :
    tokens content = tokens (lead ++ (content ++ trail)) := by
  obtain ⟨frame, rfl, place⟩ := exists_place closed trailGaps content
  rw [tokens_eq_skip] at legible
  rw [tokens_eq_skip, tokens_eq_skip]
  by_cases none : lead = []
  · -- Nothing stands in front, and a byte order mark is one of both.
    subst none
    have head : (content ++ frame.trail).head? = content.head? := List.head?_append_of_ne_nil _ filled
    have around : Lexer.start (content ++ frame.trail) = frame.around (Lexer.start content) := by
      simp only [Frame.around, Lexer.start, place]
      rfl
    have within : (if content.head? = some '\ufeff' then 1 else 0) ≤ content.length := by
      have := List.length_pos_iff.2 filled
      split <;> omega
    rw [List.nil_append, head] at legible ⊢
    rw [Frame.skip_eq_around around within] at legible ⊢
    exact run_around _ (List.length_append.ge) legible
  · have noMark := unmarked.resolve_left none
    rw [if_neg (head?_ne_of_gaps leadGaps none _)] at legible ⊢
    rw [if_neg noMark]
    have whole : (blankRun false lead).1 = lead.length := blankRun_lead leadGaps legible
    have same := Lexer.run_eq_of_arrive (arrive_behind_lead leadGaps whole place) legible
    refine (run_around 0 ?_ ?_).trans same
    · simp only [List.length_append]
      omega
    · exact (congrArg Legible same).mpr legible

/-- White space holds no tokens. -/
theorem tokens_of_gaps {s : List Char} (gaps : ∀ c ∈ s, isGap c = true) (legible : Legible (tokens s)) :
    tokens s = [] := by
  by_cases none : s = []
  · subst none
    rfl
  have noMark : s.head? ≠ some '\ufeff' := by simpa using head?_ne_of_gaps gaps none []
  rw [tokens_eq_skip, if_neg noMark] at legible ⊢
  obtain ⟨next, goesOn, step⟩ := Lexer.advance_of_legible legible
  have suffix : ((Lexer.start s).skip 0).arrive.cursor.rest <:+ s := (Cursor.reaches_toToken _).suffix
  have ends := Lexer.rest_of_atGap (atGap_of_gaps fun c among => gaps c (suffix.subset among)) step
  obtain ⟨rfl, -, tokens⟩ := Lexer.ends_of_advance ends step
  rw [Lexer.run, step]
  simp only [tokens]
  rfl

end Tokens

/-- White space holds no value. -/
theorem read_of_gaps {s : List Char} {document : Document} (gaps : ∀ c ∈ s, isGap c = true)
    (ok : read s = .ok document) : document.value = .null := by
  unfold read at ok
  split at ok
  · obtain ⟨root, found, ok⟩ := Outcome.bind_eq_ok_iff.1 ok
    rw [tokens_of_gaps gaps (readRoot_legible found)] at found
    cases found
    have nothing : Node.absent.document = .ok ⟨.null, []⟩ := by cbv
    exact congrArg Document.value (Except.ok.inj (ok.symm.trans nothing))
  · cases ok

/-- A document has the value of its part between the blank lines. -/
theorem read_between {document : Document} (leadGaps : ∀ c ∈ lead, isGap c = true)
    (trailGaps : ∀ c ∈ trail, isGap c = true) (closed : ∀ c ∈ lead.getLast?, isBreak c = true)
    (unmarked : lead = [] ∨ content.head? ≠ some '\ufeff') (filled : content ≠ [])
    (ok : read (lead ++ (content ++ trail)) = .ok document) : read content = .ok document := by
  unfold read at ok ⊢
  split at ok
  · rename_i allowed
    have inner : content.all isAllowed = true := by
      simp only [List.all_append, Bool.and_eq_true] at allowed
      exact allowed.2.1
    obtain ⟨root, found, made⟩ := Outcome.bind_eq_ok_iff.1 ok
    rwa [if_pos inner, tokens_between leadGaps trailGaps closed unmarked filled (readRoot_legible found)]
  · cases ok

/-- What blank lines mean to a reader. White space alone is no value, and blank lines in front of a text mean nothing.
Behind a text they mean nothing either, unless the text ends in a block scalar, which they belong to. -/
structure Regular (reader : Reader) (endsOpen : List Char → Bool) : Prop where
  white : ∀ {s : List Char} {document : Document}, (∀ c ∈ s, isGap c = true) → reader s = .ok document →
    document.value = .null
  front : ∀ {lead content : List Char} {document : Document}, (∀ c ∈ lead, isGap c = true) →
    (∀ c ∈ lead.getLast?, isBreak c = true) → (lead = [] ∨ content.head? ≠ some '\ufeff') → content ≠ [] →
    reader (lead ++ content) = .ok document → reader content = .ok document
  back : ∀ {content trail : List Char} {document : Document}, (∀ c ∈ trail, isGap c = true) → content ≠ [] →
    endsOpen content = false → reader (content ++ trail) = .ok document → reader content = .ok document

/-- Where block scalars are refused, no text ends in one. -/
theorem regular_read : Regular read fun _ => false where
  white := read_of_gaps
  front {lead content document} gaps closed unmarked filled ok :=
    @read_between lead content [] document gaps nofun closed unmarked filled (by rwa [List.append_nil])
  back {content trail document} gaps filled _ ok :=
    @read_between [] content trail document nofun gaps nofun (.inl rfl) filled ok

end Yaml

namespace Settings

/-- How a text lies in its file: blank lines, what indents the first line with text, the text itself, and behind it
other blanks and white space. -/
structure Layout where
  lead : List Char
  indent : List Char
  content : List Char
  tail : List Char
  trail : List Char
  leadGaps : ∀ c ∈ lead, Yaml.isGap c = true
  trailGaps : ∀ c ∈ trail, Yaml.isGap c = true
  closed : ∀ c ∈ lead.getLast?, Yaml.isBreak c = true
  indentBlanks : ∀ c ∈ indent, isBlank c = true
  tailBlanks : ∀ c ∈ tail, isBlank c = true
  tight : trim content = content
  -- A byte order mark means nothing in front of a document only.
  unmarked : lead = [] ∨ content.head? ≠ some '\ufeff'

namespace Layout

variable (layout : Layout)

def text : List Char :=
  layout.lead ++ layout.indent ++ layout.content ++ layout.tail ++ layout.trail

/-- The text without what indents its first line, without the other blanks behind it and, where it ends in a block
scalar, without the white space behind it: the text itself where there are none of these. -/
def even (endsOpen : List Char → Bool) : List Char :=
  layout.lead ++ (layout.content ++ if endsOpen layout.content then [] else layout.trail)

theorem trim_text : trim layout.text = layout.content := by
  have front : ∀ c ∈ layout.lead ++ layout.indent, isBlank c = true := by
    rintro c among
    rcases List.mem_append.1 among with lead | indent
    · exact Yaml.isBlank_of_isGap (layout.leadGaps c lead)
    · exact layout.indentBlanks c indent
  have back : ∀ c ∈ layout.tail ++ layout.trail, isBlank c = true := by
    rintro c among
    rcases List.mem_append.1 among with tail | trail
    · exact layout.tailBlanks c tail
    · exact Yaml.isBlank_of_isGap (layout.trailGaps c trail)
  have parts : layout.text = layout.lead ++ layout.indent ++ layout.content ++ (layout.tail ++ layout.trail) :=
    List.append_assoc _ _ _
  rw [parts]
  by_cases filled : layout.content = []
  · rw [filled, List.append_nil]
    exact trim_eq_nil_iff.2 (List.forall_mem_append.2 ⟨front, back⟩)
  · exact (solid_of_trim filled layout.tight).trim_between front back

end Layout

/-- A section file means what its text means once the first line is not indented and a block scalar at its end has no
line break behind it: the entries if that is a mapping, and none if it is anything else. -/
theorem section_file_means_even_text {reader : Yaml.Reader} {endsOpen : List Char → Bool}
    (regular : Yaml.Regular reader endsOpen) (layout : Layout) {file : List Char} {document : Yaml.Document}
    (lies : unifyNewlines file = layout.text) (ok : reader (layout.even endsOpen) = .ok document) :
    readMapping reader file = .ok (mappingOf document) := by
  simp only [readMapping, lies, layout.trim_text, List.isEmpty_iff]
  by_cases filled : layout.content = []
  · have gaps : ∀ c ∈ layout.even endsOpen, Yaml.isGap c = true := by
      rw [Layout.even, filled, List.nil_append, List.forall_mem_append]
      refine ⟨layout.leadGaps, ?_⟩
      split
      · exact nofun
      · exact layout.trailGaps
    rw [if_pos filled, mappingOf, regular.white gaps ok]
  · have front := regular.front layout.leadGaps layout.closed
      (layout.unmarked.imp_right fun unlike => by rwa [List.head?_append_of_ne_nil _ filled])
      (List.append_ne_nil_of_left_ne_nil filled _) ok
    rw [if_neg filled]
    cases opens : endsOpen layout.content with
    | true =>
      rw [opens, if_pos rfl, List.append_nil] at front
      rw [front]
      rfl
    | false =>
      rw [opens, if_neg Bool.false_ne_true] at front
      rw [regular.back layout.trailGaps filled opens front]
      rfl

/-- Two lines below a blank line and a comment, with a no-break space behind them. -/
def twoLines : Layout where
  lead := "\n".toList
  indent := []
  content := "# shop\nproduct: red\nenv: stage".toList
  tail := "\u00a0".toList
  trail := "\n".toList
  leadGaps := by simp [Yaml.isGap, Yaml.isBreak]
  trailGaps := by simp [Yaml.isGap, Yaml.isBreak]
  closed := by simp [Yaml.isBreak]
  indentBlanks := nofun
  tailBlanks := by simp [isBlank]
  tight := by decide
  unmarked := by decide

theorem section_file_means_even_text_two_lines :
    unifyNewlines "\r\n# shop\r\nproduct: red\r\nenv: stage\u00a0\r\n".toList = twoLines.text ∧
      Yaml.read (twoLines.even fun _ => false) =
        .ok ⟨.dict [(.text "product", .text "red"), (.text "env", .text "stage")], []⟩ ∧
      readMapping Yaml.read "\r\n# shop\r\nproduct: red\r\nenv: stage\u00a0\r\n".toList =
        .ok ⟨[(.text "product", .text "red"), (.text "env", .text "stage")], []⟩ := by
  have lies : unifyNewlines "\r\n# shop\r\nproduct: red\r\nenv: stage\u00a0\r\n".toList = twoLines.text := by decide
  have ok : Yaml.read (twoLines.even fun _ => false) =
      .ok ⟨.dict [(.text "product", .text "red"), (.text "env", .text "stage")], []⟩ := by cbv
  exact ⟨lies, ok, section_file_means_even_text Yaml.regular_read twoLines lies ok⟩

-- Lines that are all indented alike are a mapping, but no longer once the first one is not indented.
example : Yaml.read "  product: red\n  env: stage\n".toList =
    .ok ⟨.dict [(.text "product", .text "red"), (.text "env", .text "stage")], []⟩ := by cbv

example : readMapping Yaml.read "  product: red\n  env: stage\n".toList = .error .yaml := by cbv

end Settings

end Stencil
