import Stencil.Text.Digit
import Stencil.Text.Split

/-! Options on the command line.

An option has a long name, which may be shortened as long as it stays the only one, and takes the
next word or what stands behind an equals sign. A word that begins with a dash is taken for an
option unless it is a number or holds a space; behind two dashes everything is a word. A word that
no option takes is wrong, and so are the two dashes.
-/

set_option autoImplicit false

namespace Stencil.Command

inductive Flag where
  | help
  | repoRoot
  | record
  deriving DecidableEq, Repr

def flagNames : List (String × Flag) :=
  [("-h", .help), ("--help", .help), ("--repo-root", .repoRoot), ("--record", .record)]

inductive Stop where
  | help
  | misuse
  deriving DecidableEq, Repr

inductive Token where
  -- An option with the text that is attached to it: behind an equals sign, or as letters in a
  -- cluster behind its short name.
  | flag (flag : Flag) (attached? : Option (List Char)) (isCluster : Bool)
  | divider
  | stranger
  | word (s : String)

def isDecimal (c : Char) : Bool :=
  (Text.digitValue? c).isSome

def allDecimals (s : List Char) : Bool :=
  !s.isEmpty && s.all isDecimal

def withoutLastBreak (s : List Char) : List Char :=
  if s.getLast? == some '\n' then s.dropLast else s

/-- A negative number, which is no option; a line break may stand behind it. -/
def isNegativeNumber (s : List Char) : Bool :=
  match withoutLastBreak s with
  | '-' :: rest =>
    allDecimals rest ||
      match rest.dropWhile isDecimal with
      | '.' :: fraction => allDecimals fraction
      | _ => false
  | _ => false

def cutAttached (s : List Char) : List Char × Option (List Char) :=
  match Text.cutAtChar? '=' s with
  | some (name, attached) => (name, some attached)
  | none => (s, none)

def longMatches (s : List Char) : List Token :=
  let (name, attached?) := cutAttached s
  (flagNames.filter fun (full, _) => name.isPrefixOf full.toList).map fun (_, flag) => .flag flag attached? false

def shortMatches (s : List Char) : List Token :=
  (flagNames.filter fun (full, _) => full.toList == s.take 2).map fun (_, flag) => .flag flag (some (s.drop 2)) true

-- What a word that begins with a dash and is no full name of an option looks like.
def classifyDashed (s : List Char) : Except Stop Token :=
  let isLong := s.take 2 == ['-', '-']
  match if isLong then longMatches s else shortMatches s with
  | [token] => .ok token
  | _ :: _ :: _ => .error .misuse
  | [] => .ok (if isNegativeNumber s || s.contains ' ' then .word (String.ofList s) else .stranger)

def classify (s : String) : Except Stop Token :=
  let chars := s.toList
  let (name, attached?) := cutAttached chars
  if s = "--" then .ok .divider
  else if chars.head? != some '-' || chars.length = 1 then .ok (.word s)
  else
    match flagNames.lookup s, flagNames.lookup (String.ofList name) with
    | some flag, _ => .ok (.flag flag none false)
    | none, some flag => .ok (.flag flag attached? false)
    | none, none => classifyDashed chars

/-- What the words of a command line look like; behind a divider there are only words. -/
def tokens : List String → Except Stop (List Token)
  | [] => .ok []
  | s :: rest => do
    match ← classify s with
    | .divider => return .divider :: rest.map .word
    | token => return token :: (← tokens rest)

structure Options where
  repoRoot? : Option String
  record? : Option String
  deriving DecidableEq, Repr

def Options.set (options : Options) (flag : Flag) (value : String) : Options :=
  match flag with
  | .help => options
  | .repoRoot => { options with repoRoot? := some value }
  | .record => { options with record? := some value }

def takeWord? : List Token → Option (String × List Token)
  | .word s :: rest => some (s, rest)
  | _ => none

theorem takeWord?_length {tokens rest : List Token} {s : String} (taken : takeWord? tokens = some (s, rest)) :
    rest.length < tokens.length := by
  unfold takeWord? at taken
  split at taken
  · simp only [Option.some.injEq, Prod.mk.injEq] at taken
    simp [← taken.2]
  · simp at taken

/-- What the help option makes of the letters that are attached to its short name: each stands for
an option of its own, and one that is not known no longer counts. -/
def helpOrMisuse : List Char → Stop
  | [] => .help
  | 'h' :: '=' :: _ => .misuse
  | 'h' :: rest => helpOrMisuse rest
  | '-' :: _ => .misuse
  | _ => .help

/-- Follow the tokens of a command line; `wrong` holds once a word has no place. -/
def readTokens (options : Options) (wrong : Bool) : List Token → Except Stop Options
  | [] => if wrong then .error .misuse else .ok options
  | .flag .help none _ :: _ => .error .help
  | .flag .help (some attached) isCluster :: _ =>
    .error (if isCluster then helpOrMisuse attached else .misuse)
  | .flag flag (some attached) _ :: rest => readTokens (options.set flag (String.ofList attached)) wrong rest
  | .flag flag none _ :: rest =>
    match _taken : takeWord? rest with
    | some (s, after) => readTokens (options.set flag s) wrong after
    | none => .error .misuse
  | .divider :: rest => readTokens options true rest
  | .stranger :: rest => readTokens options true rest
  | .word _ :: rest => readTokens options true rest
termination_by tokens => tokens.length
decreasing_by
  · simp
  · exact Nat.lt_succ_of_lt (takeWord?_length _taken)
  all_goals simp

def Options.read (words : List String) : Except Stop Options := do
  readTokens ⟨none, none⟩ false (← tokens words)

def helpLines (program : String) : List String :=
  ["usage: " ++ program ++ " [-h] [--repo-root REPO_ROOT] [--record RECORD]",
    "",
    "Template provider harness",
    "",
    "options:",
    "  -h, --help            show this help message and exit",
    "  --repo-root REPO_ROOT",
    "  --record RECORD       JSON object used as Record"]

end Stencil.Command
