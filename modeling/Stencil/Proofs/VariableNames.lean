import Mathlib.Data.List.Infix
import Stencil.Settings.Variables

/-! Which paths variables name.

Behind the mark, the name of a variable is cut at each pair of underscores from the left. It names a path if no
part is empty: the parts in small letters, except from the third on where the first is `host`.
-/

set_option autoImplicit false

namespace Stencil

namespace Text

/-- The parts that a text is cut into at each pair of characters, from the left: no part holds the pair, not
even together with the beginning of the pair behind it. -/
def CutAtPair (a b : Char) : List (List Char) → Prop
  | [] => False
  | [last] => ¬ [a, b] <:+: last
  | part :: next :: others => ¬ [a, b] <:+: part ++ [a] ∧ CutAtPair a b (next :: others)

section Pair

variable {a b : Char}

theorem pair_infix_cons_iff {c : Char} {text : List Char} :
    [a, b] <:+: c :: text ↔ (c = a ∧ text.head? = some b) ∨ [a, b] <:+: text := by
  rw [List.infix_cons_iff]
  refine or_congr_left ?_
  cases text <;> simp [List.cons_prefix_cons, eq_comm]

theorem intercalate_part (part next : List Char) (others : List (List Char)) :
    [a, b].intercalate (part :: next :: others) = part ++ a :: b :: [a, b].intercalate (next :: others) := by
  simp

/-- A text without the pair is one part. -/
theorem splitOnPair_last {text : List Char} (free : ¬ [a, b] <:+: text) : splitOnPair a b text = [text] := by
  induction text with
  | nil => rfl
  | cons c text ih =>
    rw [pair_infix_cons_iff, not_or] at free
    cases text with
    | nil => rfl
    | cons d rest =>
      rw [splitOnPair, if_neg (by simpa using free.1), ih free.2]
      rfl

theorem splitOnPair_part {part : List Char} (free : ¬ [a, b] <:+: part ++ [a]) (rest : List Char) :
    splitOnPair a b (part ++ a :: b :: rest) = part :: splitOnPair a b rest := by
  induction part with
  | nil => simp [splitOnPair]
  | cons c part ih =>
    rw [List.cons_append, pair_infix_cons_iff, not_or] at free
    have behind := ih free.2
    -- The first character does not begin a pair with whatever comes behind it.
    obtain ⟨d, more, text, first⟩ : ∃ d more, part ++ a :: b :: rest = d :: more ∧ (part ++ [a]).head? = some d := by
      cases part <;> simp
    have apart : ¬ (c = a ∧ d = b) := by
      rintro ⟨same, rfl⟩
      exact free.1 ⟨same, first⟩
    rw [List.cons_append, text, splitOnPair, if_neg apart, ← text, behind]
    rfl

theorem splitOnPair_intercalate {parts : List (List Char)} (cut : CutAtPair a b parts) :
    splitOnPair a b ([a, b].intercalate parts) = parts := by
  fun_induction CutAtPair a b parts with
  | case1 => exact cut.elim
  | case2 last => simpa using splitOnPair_last cut
  | case3 part next others ih => rw [intercalate_part, splitOnPair_part cut.1, ih cut.2]

/-- Where a character does not begin a pair, it is put in front of the first part. -/
theorem cutAtPair_extendFirst {c d : Char} {text : List Char} {parts : List (List Char)} (apart : ¬ (c = a ∧ d = b))
    (whole : [a, b].intercalate parts = d :: text) (cut : CutAtPair a b parts) :
    [a, b].intercalate (extendFirst c parts) = c :: d :: text ∧ CutAtPair a b (extendFirst c parts) := by
  match parts with
  | [] => exact cut.elim
  | [last] =>
    obtain rfl : last = d :: text := by simpa using whole
    refine ⟨by simp [extendFirst], ?_⟩
    rw [extendFirst, CutAtPair, pair_infix_cons_iff, not_or]
    exact ⟨by simpa using apart, cut⟩
  | part :: next :: others =>
    rw [extendFirst, intercalate_part, List.cons_append, ← intercalate_part, whole]
    refine ⟨rfl, ?_, cut.2⟩
    have first : (part ++ [a]).head? = some d := by
      rw [intercalate_part] at whole
      cases part <;> simp_all
    rw [List.cons_append, pair_infix_cons_iff, not_or, first]
    exact ⟨by simpa using apart, cut.1⟩

theorem cutAtPair_splitOnPair (text : List Char) :
    [a, b].intercalate (splitOnPair a b text) = text ∧ CutAtPair a b (splitOnPair a b text) := by
  fun_induction splitOnPair a b text with
  | case1 => simp [CutAtPair]
  | case2 c => simp [CutAtPair, pair_infix_cons_iff]
  | case3 c d rest here ih =>
    obtain ⟨rfl, rfl⟩ := here
    obtain ⟨first, others, parts⟩ : ∃ first others, splitOnPair c d rest = first :: others := by
      cases parts : splitOnPair c d rest with
      | nil => simp [parts, CutAtPair] at ih
      | cons first others => exact ⟨first, others, rfl⟩
    rw [parts] at ih ⊢
    rw [intercalate_part, ih.1]
    exact ⟨rfl, by simp [pair_infix_cons_iff], ih.2⟩
  | case4 c d rest apart ih => exact cutAtPair_extendFirst apart ih.1 ih.2

end Pair

end Text

namespace Settings

open Text

/-- Whether a part of a name keeps its letters: from the third part on, below `host`. -/
def KeepsLetters (parts : List (List Char)) (place : Nat) : Prop :=
  2 ≤ place ∧ parts.head?.map lowercase = some "host".toList

instance (parts : List (List Char)) (place : Nat) : Decidable (KeepsLetters parts place) :=
  inferInstanceAs (Decidable (_ ∧ _))

/-- A variable names a path. -/
def Names (name : String) (path : List String) : Prop :=
  ∃ parts, name.toList = mark ++ ['_', '_'].intercalate parts ∧ CutAtPair '_' '_' parts ∧ (∀ part ∈ parts, part ≠ []) ∧
    path = parts.mapIdx fun place part => String.ofList (if KeepsLetters parts place then part else lowercase part)

theorem normalPath_eq (parts : List (List Char)) : normalPath parts =
    parts.mapIdx fun place part => String.ofList (if KeepsLetters parts place then part else lowercase part) := by
  match parts with
  | [] => rfl
  | [_] => simp [normalPath, KeepsLetters]
  | head :: field :: rest =>
    have late (place : Nat) : KeepsLetters (head :: field :: rest) (place + 2) ↔ lowercase head = "host".toList := by
      simp [KeepsLetters]
    refine List.ext_getElem? fun place => ?_
    rw [List.getElem?_mapIdx, normalPath]
    match place with
    | 0 => simp [KeepsLetters]
    | 1 => simp [KeepsLetters]
    | place + 2 =>
      simp only [late]
      by_cases host : lowercase head = "host".toList
      · simp only [host, if_true, List.map_cons, List.getElem?_cons_succ, List.getElem?_map]
      · simp only [host, if_false, List.map_cons, List.map_map, List.getElem?_cons_succ, List.getElem?_map]
        rfl

theorem pathOf?_eq_some_iff {name : String} {path : List String} : pathOf? name = some path ↔ Names name path := by
  simp only [pathOf?, Names, Option.bind_eq_some_iff, after?_eq_some_iff]
  constructor
  · rintro ⟨rest, text, named⟩
    obtain ⟨whole, cut⟩ := @cutAtPair_splitOnPair '_' '_' rest
    generalize splitOnPair '_' '_' rest = parts at named whole cut
    split at named
    · cases named
    · rename_i filled
      refine ⟨parts, by rw [whole, text], cut, ?_, ?_⟩
      · rintro part among rfl
        exact filled (List.any_eq_true.2 ⟨[], among, rfl⟩)
      · rw [← normalPath_eq]
        exact (Option.some.inj named).symm
  · rintro ⟨parts, text, cut, filled, rfl⟩
    have none : ¬ parts.any List.isEmpty = true := by
      rw [List.any_eq_true]
      rintro ⟨part, among, empty⟩
      exact filled part among (List.isEmpty_iff.1 empty)
    exact ⟨_, text, by rw [splitOnPair_intercalate cut, if_neg none, normalPath_eq]⟩

end Settings

end Stencil
