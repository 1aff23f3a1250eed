/-! Finding one text in another and cutting a text at a separator. -/

set_option autoImplicit false

namespace Stencil.Text

-- The rest of the text after a leading part, if the text begins with that part.
def after? : List Char → List Char → Option (List Char)
  | [], text => some text
  | _ :: _, [] => none
  | p :: part, c :: text => if p = c then after? part text else none

/-- Cut a text at the first place where the part occurs: what stands before it and what after it. -/
def cutAt? (part : List Char) : List Char → Option (List Char × List Char)
  | [] => if part.isEmpty then some ([], []) else none
  | c :: text =>
    match after? part (c :: text) with
    | some rest => some ([], rest)
    | none => (cutAt? part text).map fun (before, rest) => (c :: before, rest)

theorem after?_eq_some_iff (part text rest : List Char) :
    after? part text = some rest ↔ text = part ++ rest := by
  induction part generalizing text with
  | nil => simp [after?, eq_comm]
  | cons p part ih =>
    cases text with
    | nil => simp [after?]
    | cons c text =>
      by_cases same : p = c
      · simp [after?, same, ih]
      · simp [after?, same, Ne.symm same]

theorem cutAt?_join {part text before rest : List Char} (found : cutAt? part text = some (before, rest)) :
    text = before ++ part ++ rest := by
  induction text generalizing before with
  | nil =>
    simp only [cutAt?] at found
    split at found <;> simp_all
  | cons c text ih =>
    simp only [cutAt?] at found
    split at found
    · rename_i here
      simp only [Option.some.injEq, Prod.mk.injEq] at found
      obtain ⟨rfl, rfl⟩ := found
      simpa using (after?_eq_some_iff part (c :: text) _).1 here
    · simp only [Option.map_eq_some_iff, Prod.mk.injEq, Prod.exists] at found
      obtain ⟨front, tail, cut, rfl, rfl⟩ := found
      simp [ih cut]

/-- Put a character in front of the first piece; where there is no piece it begins one. -/
def extendFirst (c : Char) : List (List Char) → List (List Char)
  | [] => [[c]]
  | piece :: others => (c :: piece) :: others

def splitOnPair (a b : Char) : List Char → List (List Char)
  | [] => [[]]
  | [c] => [[c]]
  | c :: d :: rest =>
    if c = a ∧ d = b then [] :: splitOnPair a b rest else extendFirst c (splitOnPair a b (d :: rest))

def cutAtChar? (separator : Char) : List Char → Option (List Char × List Char)
  | [] => none
  | c :: rest =>
    if c = separator then some ([], rest)
    else (cutAtChar? separator rest).map fun (before, tail) => (c :: before, tail)

end Stencil.Text
