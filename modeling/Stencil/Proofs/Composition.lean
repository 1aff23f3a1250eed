import Stencil.Proofs.Addressable

/-! Addresses behind addresses.

What stands behind an address does not change how the address is read, as long as it cannot carry a name
on. So an address with another one behind a point, or with brackets behind it, has the steps of the first
and then those of the second, and it leads where the second leads from where the first has led.
-/

set_option autoImplicit false

namespace Stencil

open Text

namespace Text

theorem unblank_head {s : List Char} (whole : s.dropWhile isBlank = s) : ∀ c ∈ s.head?, isBlank c = false := by
  intro c first
  have unblank := List.head?_dropWhile_not isBlank s
  rw [whole, Option.mem_def.1 first] at unblank
  exact unblank

/-- A text that trimming leaves as it is neither begins nor ends with a blank. -/
theorem solid_of_trim {s : List Char} (filled : s ≠ []) (tight : trim s = s) : Solid s := by
  have suffix := List.dropWhile_suffix isBlank (l := s)
  have shorter := (List.dropWhile_suffix isBlank (l := (s.dropWhile isBlank).reverse)).length_le
  have front : s.dropWhile isBlank = s := by
    refine suffix.eq_of_length (Nat.le_antisymm suffix.length_le ?_)
    calc s.length = (trim s).length := by rw [tight]
      _ ≤ (s.dropWhile isBlank).length := by simpa [trim, stripOf, dropTrailing, dropLeading] using shorter
  have back : s.reverse.dropWhile isBlank = s.reverse := by
    simpa [trim, stripOf, dropTrailing, dropLeading, front] using congrArg List.reverse tight
  exact ⟨filled, unblank_head front, fun c last => unblank_head back c (by rwa [List.head?_reverse])⟩

theorem Solid.trimmed {s : String} (solid : Solid s.toList) : trimmed s = s := by
  rw [Text.trimmed, solid.trim, String.ofList_toList]

end Text

namespace Address

variable {access : Access} {a b : String} {first second : List Step}

section Reading

theorem parse_eq_some_iff {address : String} {steps : List Step} :
    parse address = .ok (some steps) ↔ readSteps true address.toList = .ok (some steps) ∧ steps ≠ [] := by
  rw [parse]
  cases readSteps true address.toList with
  | error fault => simp [bind, Except.bind]
  | ok read =>
    cases read with
    | none => simp [bind, Except.bind, pure, Except.pure]
    | some found =>
      cases found with
      | nil => simp [bind, Except.bind, pure, Except.pure, eq_comm]
      | cons step others =>
        simp only [bind, Except.bind, pure, Except.pure, Except.ok.injEq, Option.some.injEq, iff_self_and]
        rintro rfl
        exact List.cons_ne_nil step others

theorem filled_of_parse {address : String} {steps : List Step} (parses : parse address = .ok (some steps)) :
    address.toList ≠ [] := by
  intro empty
  obtain ⟨read, some⟩ := parse_eq_some_iff.1 parses
  rw [empty, readSteps] at read
  simp_all

/-- The text behind an address is read as if the address had just been read. -/
theorem readSteps_append {front rest : List Char} (filled : front ≠ [])
    (read : readSteps true front = .ok (some first)) (ends : EndsName rest) :
    readSteps true (front ++ rest) = (readSteps false rest).map (Option.map (first ++ ·)) := by
  have accounted := (readSteps_accounted true front).2 rfl filled
  rw [read] at accounted
  cases accounted with
  | whole derivation written means =>
    rw [written, readSteps_derivation derivation (.inl ends), readFront_of_means means]

/-- A bracket may stand where a name is expected, and where none is. -/
theorem readSteps_opening (expectsName : Bool) (rest : List Char) :
    readSteps expectsName ('[' :: rest) = readSteps true ('[' :: rest) := by
  rw [readSteps, readSteps]
  simp only [if_true]

theorem parse_append {rest : String} (parses : parse a = .ok (some first)) (ends : EndsName rest.toList)
    (behind : readSteps false rest.toList = .ok (some second)) : parse (a ++ rest) = .ok (some (first ++ second)) := by
  obtain ⟨read, some⟩ := parse_eq_some_iff.1 parses
  have whole := readSteps_append (filled_of_parse parses) read ends
  rw [behind] at whole
  exact parse_eq_some_iff.2 ⟨by rwa [String.toList_append], List.append_ne_nil_of_left_ne_nil some second⟩

theorem parse_point (parsesA : parse a = .ok (some first)) (parsesB : parse b = .ok (some second)) :
    parse (a ++ "." ++ b) = .ok (some (first ++ second)) := by
  have text : ("." ++ b).toList = '.' :: b.toList := by simp
  rw [String.append_assoc]
  refine parse_append parsesA (by rw [text]; exact endsName_point _) ?_
  rw [text, readSteps_point (filled_of_parse parsesB)]
  exact (parse_eq_some_iff.1 parsesB).1

theorem parse_brackets (opens : b.toList.head? = some '[') (parsesA : parse a = .ok (some first))
    (parsesB : parse b = .ok (some second)) : parse (a ++ b) = .ok (some (first ++ second)) := by
  obtain ⟨rest, text⟩ : ∃ rest, b.toList = '[' :: rest := List.head?_eq_some_iff.1 opens
  have read := (parse_eq_some_iff.1 parsesB).1
  rw [text] at read
  refine parse_append parsesA ?_ (by rw [text, readSteps_opening, read])
  simp [EndsName, text, isNameChar]

end Reading

section Looking

theorem trail_append (first second : List Step) (value : Value) :
    trail access (first ++ second) value = trail access first value >>= trail access second :=
  List.foldlM_append

/-- An address that has the steps of one address and then those of another leads where the other leads
from where the one has led. -/
theorem resolve_of_parse_append {address : String} (tight : trimmed address = address) (tightA : trimmed a = a)
    (tightB : trimmed b = b) (parsesA : parse a = .ok (some first)) (parsesB : parse b = .ok (some second))
    (parses : parse address = .ok (some (first ++ second))) (root : Value) :
    resolve access root (.text address) =
      resolve access root (.text a) >>= fun value => resolve access value (.text b) := by
  rw [← tight] at parses
  rw [← tightA] at parsesA
  rw [← tightB] at parsesB
  rw [resolve_of_parse parses, resolve_of_parse parsesA, trail_append]
  simp only [resolve_of_parse parsesB]

theorem solid_of_parse {address : String} {steps : List Step} (tight : trimmed address = address)
    (parses : parse address = .ok (some steps)) : Solid address.toList := by
  refine solid_of_trim (filled_of_parse parses) ?_
  rw [← String.toList_ofList (l := trim address.toList)]
  exact congrArg String.toList tight

end Looking

/-- Addresses without blanks around them compose: with a point between them, or with nothing if the second
begins with a bracket, they are read as the steps of the one and then of the other, and they lead from any
root where the second leads from where the first has led, even if that is nowhere. -/
theorem addresses_compose (access : Access) (tightA : trimmed a = a) (parsesA : parse a = .ok (some first))
    (tightB : trimmed b = b) (parsesB : parse b = .ok (some second)) :
    (parse (a ++ "." ++ b) = .ok (some (first ++ second)) ∧
      ∀ root, resolve access root (.text (a ++ "." ++ b)) =
        resolve access root (.text a) >>= fun value => resolve access value (.text b)) ∧
    (b.toList.head? = some '[' →
      parse (a ++ b) = .ok (some (first ++ second)) ∧
      ∀ root, resolve access root (.text (a ++ b)) =
        resolve access root (.text a) >>= fun value => resolve access value (.text b)) := by
  have solidA := solid_of_parse tightA parsesA
  have solidB := solid_of_parse tightB parsesB
  constructor
  · have parses := parse_point parsesA parsesB
    have tight : trimmed (a ++ "." ++ b) = a ++ "." ++ b := by
      refine Solid.trimmed ?_
      rw [String.toList_append, String.toList_append]
      exact (solidA.append solid_point).append solidB
    exact ⟨parses, resolve_of_parse_append tight tightA tightB parsesA parsesB parses⟩
  · intro opens
    have parses := parse_brackets opens parsesA parsesB
    have tight : trimmed (a ++ b) = a ++ b := by
      refine Solid.trimmed ?_
      rw [String.toList_append]
      exact solidA.append solidB
    exact ⟨parses, resolve_of_parse_append tight tightA tightB parsesA parsesB parses⟩

theorem addresses_compose_brackets :
    parse "Record[\"a.b\"]" = .ok (some [.name "Record", .name "a.b"]) ∧
      parse "[0].x" = .ok (some [.index 0, .name "x"]) ∧
      parse "Record[\"a.b\"][0].x" = .ok (some [.name "Record", .name "a.b", .index 0, .name "x"]) ∧
      ∀ root, resolve ⟨fun _ => none, fun _ _ => none⟩ root (.text "Record[\"a.b\"].[0].x") =
        resolve ⟨fun _ => none, fun _ _ => none⟩ root (.text "Record[\"a.b\"]") >>= fun value =>
          resolve ⟨fun _ => none, fun _ _ => none⟩ value (.text "[0].x") := by
  have parsesA : parse "Record[\"a.b\"]" = .ok (some [.name "Record", .name "a.b"]) := by
    decide +kernel
  have parsesB : parse "[0].x" = .ok (some [.index 0, .name "x"]) := by
    decide +kernel
  obtain ⟨⟨-, resolves⟩, adjacent⟩ := addresses_compose ⟨fun _ => none, fun _ _ => none⟩ (by decide +kernel)
    parsesA (by decide +kernel) parsesB
  exact ⟨parsesA, parsesB, (adjacent rfl).1, resolves⟩

end Address

end Stencil
