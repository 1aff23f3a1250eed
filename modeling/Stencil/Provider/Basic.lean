import Stencil.Fault
import Stencil.Number.Integer

/-! Providers: what fills the spans between delimiters.

A provider is constructed from a class for one host. How it renders is its class's conduct; what
conducts there are is left open here.
-/

set_option autoImplicit false

namespace Stencil

variable {κ : Type}

/-- A class that a host may be asked to construct a provider from. -/
structure ProviderClass (κ : Type) where
  name : String
  renders : Bool
  templateHash? : Option String
  pairs : List (Value × Value)
  refusal? : Option Fault
  conduct : κ

structure Provider (κ : Type) where
  serial : Nat
  cls : ProviderClass κ
  options : Entries
  serviceHash? : Option String

namespace Provider

def isDerived (p : Provider κ) : Bool :=
  p.cls.templateHash?.isSome

def logName (p : Provider κ) : String :=
  "pict.template." ++ p.serviceHash?.getD ""

def uuid (p : Provider κ) : String :=
  let digits := (Number.natText p.serial).toList
  "00000000-0000-4000-8000-" ++ String.ofList (List.replicate (12 - digits.length) '0' ++ digits)

end Provider

/-- What a pattern hands its spans to: a conduct, and the provider that it belongs to. -/
structure Handler (κ : Type) where
  conduct : κ
  owner? : Option (Provider κ)

def Provider.handler (p : Provider κ) : Handler κ :=
  ⟨p.cls.conduct, some p⟩

def Handler.ownerName? (handler : Handler κ) : Option String :=
  handler.owner?.map (·.cls.name)

def Handler.serviceHash? (handler : Handler κ) : Option String :=
  handler.owner?.bind (·.serviceHash?)

structure Arguments where
  record : Value
  context : Value
  -- Where the host keeps the scope and the state of the call, which rendering may change.
  sticky : Nat

end Stencil
