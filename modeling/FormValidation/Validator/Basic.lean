import FormValidation.NameMap

/-!
# Custom validators

A custom validator decides about the value of a control, or about no value when its rule names no
control.  A synchronous validator decides at once.  An asynchronous one takes some time, after which it
has decided or rejects the request; it may also never settle.

A registry holds validators by name.
-/

namespace FormValidation

/-! ## Decisions -/

/-- What a validator decided. -/
structure Decision where
  valid : Bool
  message : Option String
  deriving Repr, DecidableEq

namespace Decision

def accepted : Decision :=
  ⟨true, none⟩

def refused (message : String) : Decision :=
  ⟨false, some message⟩

end Decision

/-- How an asynchronous validator ends. -/
inductive Settlement where
  | decided (decision : Decision)
  | rejected (reason : String)
  deriving Repr, DecidableEq

/-- The course of an asynchronous validator from its start on. -/
inductive Course where
  /-- It settles so many milliseconds after its start. -/
  | settles (delay : Nat) (settlement : Settlement)
  | never
  deriving Repr, DecidableEq

/-! ## Validators -/

inductive CustomValidator where
  | synchronous (decide : Option String → Decision)
  | asynchronous (start : Option String → Course)

def CustomValidator.isAsynchronous : CustomValidator → Bool
  | .synchronous _ => false
  | .asynchronous _ => true

abbrev Registry := NameMap CustomValidator

end FormValidation
