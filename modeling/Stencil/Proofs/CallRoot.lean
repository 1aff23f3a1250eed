import Stencil.Host.Resolution
import Stencil.Proofs.Digits
import Stencil.Proofs.Keyed
import Stencil.Proofs.Lookup

/-! The root of a look-up in a call.

The names of the host stand over whatever a caller adds: an address that begins with one of them leads
from what the host has under it, whichever root the caller gives, and every other address leads where it
would lead from the caller's root alone.
-/

set_option autoImplicit false

namespace Stencil

namespace Host

open Address

variable {κ : Type} {record context root : Value} {host : Host κ}

section Names

/-- What stands under the names of the host in a call with a record and a context. -/
inductive Stands (record context : Value) : String → Value → Prop where
  | pict : Stands record context "Pict" (.object .host)
  | fable : Stands record context "Fable" (.object .host)
  | appData : Stands record context "AppData" (.object (.holding .appData))
  | bundle : Stands record context "Bundle" (.object (.holding .bundle))
  | list {items : List Value} : context = .list items → Stands record context "Context" (.list items)
  | tuple {items : List Value} : context = .tuple items → Stands record context "Context" (.list items)
  | alone : (∀ items, context ≠ .list items) → (∀ items, context ≠ .tuple items) →
      Stands record context "Context" (.list [.object .host])
  | record : Stands record context "Record" record

def ownNames : List String :=
  ["Pict", "Fable", "AppData", "Bundle", "Context", "Record"]

theorem stands_context (record context : Value) : Stands record context "Context" (.list (contextItems context)) := by
  cases context with
  | list items => exact .list rfl
  | tuple items => exact .tuple rfl
  | _ => exact .alone (by simp) (by simp)

theorem keys_hostNames (record context : Value) : Entries.keys (hostNames record context) = ownNames.map .text := rfl

theorem Stands.mem_hostNames {name : String} {start : Value} (stands : Stands record context name start) :
    (.text name, start) ∈ hostNames record context := by
  cases stands with
  | list same | tuple same => simp [hostNames, same, contextItems]
  | alone noList noTuple =>
    have alone : contextItems context = [.object .host] := by
      cases context with
      | list items => exact absurd rfl (noList items)
      | tuple items => exact absurd rfl (noTuple items)
      | _ => rfl
    simp [hostNames, alone]
  | _ => simp [hostNames, held]

/-- The names of the host, each with one value under it. -/
theorem exists_stands (record context : Value) {name : String} (own : name ∈ ownNames) :
    ∃ start, Stands record context name start := by
  simp only [ownNames, List.mem_cons, List.not_mem_nil, or_false] at own
  rcases own with rfl | rfl | rfl | rfl | rfl | rfl
  · exact ⟨_, .pict⟩
  · exact ⟨_, .fable⟩
  · exact ⟨_, .appData⟩
  · exact ⟨_, .bundle⟩
  · exact ⟨_, stands_context record context⟩
  · exact ⟨_, .record⟩

theorem textKeyed_hostNames (record context : Value) : Entries.TextKeyed (hostNames record context) where
  texts := by simp [hostNames, Entries.keys]
  distinct := by simp [hostNames, Entries.keys]

/-- Under each name there is only one value. -/
theorem Stands.unique {name : String} {start other : Value} (stands : Stands record context name start)
    (stands' : Stands record context name other) : other = start := by
  have keyed := textKeyed_hostNames record context
  have found := keyed.get?_update_of_mem stands.mem_hostNames []
  rw [keyed.get?_update_of_mem stands'.mem_hostNames []] at found
  exact Option.some.inj found

-- A numeral is none of the host's names.
theorem natText_not_hostName (n : Nat) : .text (Number.natText n) ∉ Entries.keys (hostNames record context) := by
  have digits : (Number.natText n).toList.all Number.isAsciiDigit = true := by
    rw [Number.natText, String.toList_ofList, List.all_eq_true]
    exact Number.all_isAsciiDigit_decimalDigits n
  intro among
  simp only [hostNames, Entries.keys, List.map_cons, List.map_nil, List.mem_cons, Value.text.injEq,
    List.not_mem_nil, or_false] at among
  rcases among with same | same | same | same | same | same <;>
    · rw [same] at digits
      exact absurd digits (by decide)

end Names

section Roots

theorem entriesOrNone_of_not_dict {value : Value} (notDict : ∀ entries, value ≠ .dict entries) :
    value.entriesOrNone = [] := by
  cases value with
  | dict entries => exact absurd rfl (notDict entries)
  | _ => rfl

/-- A step that is one of the host's names leads to what the host has under it. -/
theorem inEntries_of_hostName {name : String} {start : Value} (among : (.text name, start) ∈ hostNames record context)
    (entries : Entries) : (Step.name name).inEntries (Entries.update entries (hostNames record context)) = start := by
  have found := (textKeyed_hostNames record context).get?_update_of_mem among entries
  rw [Entries.get?] at found
  simp [Step.inEntries, Step.key, found]

/-- Any other step leads where it leads in the caller's root. -/
theorem inEntries_of_otherStep {step : Step} (other : step.key ∉ Entries.keys (hostNames record context))
    (entries : Entries) :
    step.inEntries (Entries.update entries (hostNames record context)) = step.inEntries entries := by
  have keyed := textKeyed_hostNames record context
  have text {name : String} (absent : .text name ∉ Entries.keys (hostNames record context)) :
      Entries.find? (Entries.update entries (hostNames record context)) (.text name) =
        Entries.find? entries (.text name) :=
    keyed.find?_update_of_apart (fun own among => Value.apart_text fun same => absent (same ▸ among)) entries
  cases step with
  | name s =>
    simp only [Step.inEntries, Step.key, text other]
    cases Entries.find? entries (.text s) <;> rfl
  | index n =>
    have number := keyed.find?_update_of_apart (fun own _ => Value.apart_int own n) entries
    have numeral := text (natText_not_hostName n)
    simp only [Step.inEntries, Step.key, number]
    cases Entries.find? entries (.int n) with
    | some value => rfl
    | none => exact congrArg (Option.getD · .undefined) numeral

theorem from_of_hostName {name : String} {start : Value} (among : (.text name, start) ∈ hostNames record context)
    (root : Value) : (Step.name name).from host.access (.dict (host.callRoot record context root)) = .ok start := by
  rw [Step.from, callRoot, inEntries_of_hostName among]

theorem from_of_otherStep {step : Step} (other : step.key ∉ Entries.keys (hostNames record context)) (root : Value) :
    step.from host.access (.dict (host.callRoot record context root)) =
      .ok (step.inEntries (host.settle root).entriesOrNone) := by
  rw [Step.from, callRoot, inEntries_of_otherStep other]

/-- A step into a root that is a dictionary, also if the host holds it. -/
theorem from_of_settle {entries : Entries} (isDict : host.settle root = .dict entries) (step : Step) :
    step.from host.access root = .ok (step.inEntries entries) := by
  cases root with
  | dict own =>
    obtain rfl : own = entries := Value.dict.inj isDict
    rfl
  | object o =>
    cases o with
    | holding holding =>
      obtain rfl : host.entriesOf holding = entries := Value.dict.inj isDict
      rfl
    | _ => cases isDict
  | _ => cases isDict

end Roots

section Acts

theorem look_of_parse {access : Access} {s : String} {steps : List Step}
    (parses : parse (Text.trimmed s) = .ok (some steps)) (root : Value) :
    look access root (.text s) = follow access s steps root := by
  have filled : (Text.trimmed s).isEmpty = false := by
    rw [Bool.eq_false_iff]
    intro empty
    rw [String.isEmpty_iff] at empty
    rw [empty, parse, String.toList_empty, readSteps] at parses
    cases parses
  simp only [look, filled, parses]
  rfl

/-- What a look-up leaves: a record in the log, if there is something to report. -/
def noted (host : Host κ) (resolution : Resolution) : Host κ :=
  match resolutionNote? resolution with
  | some message => ((note .debug resolverLog (fun _ => .unknown) (.ok message)).play host).2
  | none => host

theorem play_lookUp (root address : Value) (host : Host κ) :
    (lookUp root address).play host =
      match look host.access root address with
      | .ok resolution => (.ok resolution.value, host.noted resolution)
      | .error fault => (.error (.numeral fault), host) := by
  rw [lookUp, Act.play_bind, Act.play_ofFun]
  cases look host.access root address with
  | error fault => rfl
  | ok resolution =>
    simp only [Outcome.ofNumeral_ok, noted]
    cases resolutionNote? resolution <;> rfl

theorem play_lookUpInCall (address record context root : Value) (host : Host κ) :
    (lookUpInCall address record context root).play host =
      (lookUp (.dict (host.callRoot record context root)) address).play host := by
  rw [lookUpInCall, Act.play_bind, Act.play_reading]

theorem play_lookUp_value (root address : Value) (host : Host κ) :
    ((lookUp root address).play host).1 = Outcome.ofNumeral (resolve host.access root address) := by
  rw [play_lookUp, resolve]
  cases look host.access root address <;> rfl

theorem settle_of_console (console : Log.Console) (root : Value) :
    ({ host with console } : Host κ).settle root = host.settle root := by
  cases root with
  | object o => cases o <;> rfl
  | _ => rfl

/-- Only the value that the first step leads to counts of a root. -/
theorem play_lookUp_congr {s : String} {step : Step} {steps : List Step} {one other : Value}
    (parses : parse (Text.trimmed s) = .ok (some (step :: steps)))
    (same : step.from host.access one = step.from host.access other) :
    (lookUp one (.text s)).play host = (lookUp other (.text s)).play host := by
  rw [play_lookUp, play_lookUp, look_of_parse parses, look_of_parse parses, follow, follow, same]

/-- A look-up changes nothing of a host but its log. -/
theorem lookUp_left (root address : Value) (host : Host κ) :
    ∃ console, ((lookUp root address).play host).2 = { host with console } := by
  rw [play_lookUp]
  cases look host.access root address with
  | error fault => exact ⟨host.console, rfl⟩
  | ok resolution =>
    simp only [noted]
    cases resolutionNote? resolution with
    | none => exact ⟨host.console, rfl⟩
    | some message => exact ⟨_, rfl⟩

end Acts

/-- A root that a caller gives adds to what the host has and never stands in its way. If an address begins
with one of the host's names, there is what stands under it, and the address leads from there, whichever root
the caller gives; the data and the bundle are those that the host has by then. Any other address leads where
it leads in the caller's root, or in an empty dictionary if that root is none. Either way the look-up leaves
the root, and all else but the log, as it was. -/
theorem hostNames_prevail (host : Host κ) (record context : Value) {s : String} {step : Step} {steps : List Step}
    (parses : parse (Text.trimmed s) = .ok (some (step :: steps))) :
    (∀ name ∈ ownNames, step = .name name → ∃ start, Stands record context name start ∧ ∀ root,
      ((lookUpInCall (.text s) record context root).play host).1 =
          Outcome.ofNumeral (trail host.access steps start) ∧
        ∀ other, (lookUpInCall (.text s) record context root).play host =
          (lookUpInCall (.text s) record context other).play host) ∧
    (host.settle (.object (.holding .appData)) = .dict host.appData ∧
      host.settle (.object (.holding .bundle)) = .dict host.bundle) ∧
    ((∀ name ∈ ownNames, step.key ≠ .text name) → ∀ root,
      ((∃ entries, host.settle root = .dict entries) →
        (lookUpInCall (.text s) record context root).play host = (lookUp root (.text s)).play host) ∧
      ((¬ ∃ entries, host.settle root = .dict entries) →
        (lookUpInCall (.text s) record context root).play host = (lookUp (.dict []) (.text s)).play host)) ∧
    ∀ root, ∃ console, ((lookUpInCall (.text s) record context root).play host).2 = { host with console } ∧
      ((lookUpInCall (.text s) record context root).play host).2.settle root = host.settle root := by
  refine ⟨?_, ⟨rfl, rfl⟩, ?_, ?_⟩
  · rintro name own rfl
    obtain ⟨start, stands⟩ := exists_stands record context own
    have among := stands.mem_hostNames
    refine ⟨start, stands, fun root => ⟨?_, ?_⟩⟩
    · rw [play_lookUpInCall, play_lookUp_value, resolve_of_parse parses, trail_cons, from_of_hostName among]
      rfl
    · intro other
      rw [play_lookUpInCall, play_lookUpInCall]
      exact play_lookUp_congr parses ((from_of_hostName among root).trans (from_of_hostName among other).symm)
  · intro apart root
    have other : step.key ∉ Entries.keys (hostNames record context) := by
      rw [keys_hostNames, List.mem_map]
      rintro ⟨name, own, same⟩
      exact apart name own same.symm
    have leads := @from_of_otherStep _ record context host step other root
    rw [play_lookUpInCall]
    constructor
    · rintro ⟨entries, isDict⟩
      rw [isDict, Value.entriesOrNone, ← from_of_settle isDict step] at leads
      exact play_lookUp_congr parses leads
    · intro notDict
      rw [entriesOrNone_of_not_dict fun entries isDict => notDict ⟨entries, isDict⟩] at leads
      exact play_lookUp_congr parses leads
  · intro root
    obtain ⟨console, left⟩ := lookUp_left (.dict (host.callRoot record context root)) (.text s) host
    rw [play_lookUpInCall, left]
    exact ⟨console, rfl, settle_of_console console root⟩

theorem hostNames_prevail_over_stale :
    let host : Host Unit := .ofSettings .default [(.text "x", .int 7)] [] (.initial "")
    let root : Value := .dict [(.text "AppData", .dict [(.text "x", .int 1)]), (.text "extra", .text "own")]
    ((lookUpInCall (.text "AppData[x]") .null .null root).play host).1 = .ok (.int 7) ∧
      ((lookUpInCall (.text "[\"extra\"]") .null .null root).play host).1 = .ok (.text "own") := by
  intro host root
  have parsesData : parse (Text.trimmed "AppData[x]") = .ok (some [.name "AppData", .name "x"]) := by
    decide +kernel
  have parsesExtra : parse (Text.trimmed "[\"extra\"]") = .ok (some [.name "extra"]) := by
    decide +kernel
  constructor
  · obtain ⟨names, -⟩ := hostNames_prevail host .null .null parsesData
    obtain ⟨start, stands, leads⟩ := names "AppData" (by simp [ownNames]) rfl
    obtain rfl := Stands.unique .appData stands
    rw [(leads root).1]
    rfl
  · obtain ⟨-, -, others, -⟩ := hostNames_prevail host .null .null parsesExtra
    have other : ∀ name ∈ ownNames, (Step.name "extra").key ≠ .text name := by simp [ownNames, Step.key]
    rw [(others other root).1 ⟨_, rfl⟩, play_lookUp_value, resolve_of_parse parsesExtra]
    rfl

end Host

end Stencil
