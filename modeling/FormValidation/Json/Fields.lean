import FormValidation.Json.Basic

/-!
# Fields of objects

Structures are written as objects whose keys are the names of their fields.  A field must not be given
twice; a field that is not given may have a default.  Here a decoder is a function from a value to what
it stands for, `none` if it stands for nothing.
-/

namespace FormValidation
namespace Json

/-! ## Decoders of plain values -/

def asText : Json → Option String
  | .str s => some s
  | _ => none

def asBool : Json → Option Bool
  | .bool b => some b
  | _ => none

/-- A natural number of 64 bits. -/
def asNatural : Json → Option Nat
  | .num (.natural n) => some n
  | _ => none

def asList {α : Type} (decode : Json → Option α) : Json → Option (List α)
  | .arr items => items.mapM decode
  | _ => none

/-- A value that may be absent, which is written as null. -/
def asOption {α : Type} (decode : Json → Option α) : Json → Option (Option α)
  | .null => some none
  | j => (decode j).map some

/-! ## Fields -/

/-- The values given for a field, in the order of the members. -/
def given (key : String) (members : List (String × Json)) : List Json :=
  (members.filter fun m => m.1 == key).map Prod.snd

def required {α : Type} (key : String) (decode : Json → Option α) (members : List (String × Json)) :
    Option α :=
  match given key members with
  | [j] => decode j
  | _ => none

def defaulted {α : Type} (key : String) (default : α) (decode : Json → Option α)
    (members : List (String × Json)) : Option α :=
  match given key members with
  | [] => some default
  | [j] => decode j
  | _ => none

end Json
end FormValidation
