import FormValidation.NameMap
import FormValidation.Rule.Basic

/-!
# Rules as attributes

A rule is declared by attributes.  The name of an attribute is compared without regard to white space
around it and to the case of letters, and may be written behind `data-`.  Where a name is given both ways
the one behind `data-` counts, wherever it stands; attributes of other names are ignored.

`Attributes.normalized` takes the attributes in one after the other, and `Rule.ofValues` makes a rule of the
values that are left.
-/

namespace FormValidation

/-! ## Names of attributes -/

/-- The name of an attribute as it is compared. -/
structure AttributeName where
  name : String
  /-- Whether it was written behind `data-`. -/
  prefixed : Bool
  deriving Repr, DecidableEq

/-- The name that a text spells. -/
def AttributeName.ofText (text : String) : AttributeName :=
  let spelled := Text.lower (Text.trim text)
  match "data-".toList.isPrefixOf? spelled.toList with
  | some rest => ⟨String.ofList rest, true⟩
  | none => ⟨spelled, false⟩

/-! ## Attributes by name -/

abbrev Attributes := List (String × String)

namespace Attributes

/-- The value that was given for a name. -/
structure Given where
  text : String
  /-- Whether the name was written behind `data-`. -/
  prefixed : Bool
  deriving Repr, DecidableEq

/-- Takes an attribute in, unless it is one without `data-` where there is one behind `data-`. -/
def take (given : NameMap Given) (a : String × String) : NameMap Given :=
  let spelled := AttributeName.ofText a.1
  if !spelled.prefixed && (given.get? spelled.name).any (·.prefixed) then given
  else given.insert spelled.name ⟨a.2, spelled.prefixed⟩

/-- What is given for each name when the attributes are taken in one after the other. -/
def normalized (attributes : Attributes) : NameMap Given :=
  attributes.foldl take .empty

/-- The value that counts for a name. -/
def value? (attributes : Attributes) (name : String) : Option String :=
  (attributes.normalized.get? name).map Given.text

end Attributes

/-! ## Rules -/

namespace Rule

/-- The operand that values declare for a rule of the given label. -/
def operandOf (label : String) (value? : String → Option String) : Except Error (Option Operand) :=
  match value? "comparevalue", value? "comparecontrol" with
  | some _, some _ => .error (.conflictingOperands label)
  | some text, none => .ok (some (.value text))
  | none, some id => .ok (some (.control id))
  | none, none => .ok none

/-- The comparison that values declare; without an operator they declare none. -/
def comparisonOf (label : String) (value? : String → Option String) :
    Except Error (Option Comparison) :=
  match value? "operator" with
  | none => .ok none
  | some text => do
      let operator ← Operator.ofText text
      let operand ← operandOf label value?
      return some ⟨operator, operand, value? "comparemaxvalue"⟩

/-- The rule that values declare, each found under its name. -/
def ofValues (value? : String → Option String) : Except Error Rule := do
  let kind ←
    match value? "validate" with
    | none => .error (.missingAttribute "element" "validate")
    | some text => RuleKind.ofText text
  let rule : Rule :=
    { kind
      control := value? "control"
      message := value? "message"
      enabled := (value? "enabled").all fun text => Text.trim text != "false"
      group := value? "validationgroup"
      pattern := value? "pattern"
      function := value? "function" }
  let comparison ← comparisonOf rule.label value?
  return { rule with comparison }

/-- The rule that attributes declare. -/
def ofAttributes (attributes : Attributes) : Except Error Rule :=
  let given := attributes.normalized
  ofValues fun name => (given.get? name).map Attributes.Given.text

theorem ofAttributes_eq (attributes : Attributes) : ofAttributes attributes = ofValues attributes.value? :=
  rfl

end Rule
end FormValidation
