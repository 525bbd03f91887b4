import FormValidation.Form.Basic
import FormValidation.Json.Fields
import FormValidation.Json.Reader

/-!
# Forms as JSON

A form is written as an object with its controls and its rule declarations.  A control is an object with
the id, the tag of the element and the fields of the element; fields that have a default may be left out,
and members of other keys mean nothing.  A form and an option may also be written as arrays of their
fields, and a tag as its position among the tags.
-/

namespace FormValidation

/-! ## Tags -/

/-- The tags that tell elements apart. -/
inductive ElementTag where
  | input
  | textarea
  | select
  | other
  deriving Repr, DecidableEq

namespace ElementTag

def name : ElementTag → String
  | .input => "input"
  | .textarea => "textarea"
  | .select => "select"
  | .other => "other"

/-- The tags, in the order in which they are counted. -/
def all : List ElementTag :=
  [.input, .textarea, .select, .other]

end ElementTag

/-! ## Writing -/

namespace SelectOption

def toJson (o : SelectOption) : Json :=
  .obj [("value", .str o.value), ("selected", .bool o.selected)]

end SelectOption

namespace Element

/-- The tag of an element. -/
def tag : Element → ElementTag
  | .input _ _ _ => .input
  | .textarea _ => .textarea
  | .select _ => .select
  | .other _ => .other

def fields : Element → List (String × Json)
  | .input type value checked =>
      [("type", .str type), ("value", .str value), ("checked", .bool checked)]
  | .textarea value => [("value", .str value)]
  | .select options => [("options", .arr (options.map SelectOption.toJson))]
  | .other name => [("name", .str name)]

def members (e : Element) : List (String × Json) :=
  ("tag", .str e.tag.name) :: e.fields

end Element

namespace Control

def toJson (c : Control) : Json :=
  .obj (("id", .str c.id) :: c.element.members)

end Control

namespace Form

def declarationJson (d : Declaration) : Json :=
  .obj (d.attributes.map fun a => (a.1, .str a.2))

def toJson (f : Form) : Json :=
  .obj
    [("controls", .arr (f.controls.map Control.toJson)),
      ("validators", .arr (f.validators.map declarationJson))]

end Form

/-! ## Reading -/

namespace SelectOption

def ofJson? : Json → Option SelectOption
  | .obj members => do
      let value ← Json.required "value" Json.asText members
      let selected ← Json.defaulted "selected" false Json.asBool members
      return ⟨value, selected⟩
  | .arr [value] => return ⟨← value.asText, false⟩
  | .arr [value, selected] => return ⟨← value.asText, ← selected.asBool⟩
  | _ => none

end SelectOption

namespace Element

def tagOf : Json → Option ElementTag
  | .str name => ElementTag.all.find? fun tag => tag.name == name
  | .num (.natural n) => ElementTag.all[n]?
  | _ => none

def ofMembers? (members : List (String × Json)) : Option Element := do
  match ← Json.required "tag" tagOf members with
  | .input =>
      let type ← Json.defaulted "type" "text" Json.asText members
      let value ← Json.defaulted "value" "" Json.asText members
      let checked ← Json.defaulted "checked" false Json.asBool members
      return .input type value checked
  | .textarea => return .textarea (← Json.defaulted "value" "" Json.asText members)
  | .select =>
      return .select (← Json.defaulted "options" [] (Json.asList SelectOption.ofJson?) members)
  | .other => return .other (← Json.required "name" Json.asText members)

end Element

namespace Control

def ofJson? : Json → Option Control
  | .obj members => do
      let id ← Json.required "id" Json.asText members
      let element ← Element.ofMembers? members
      return ⟨id, element⟩
  | _ => none

end Control

namespace Form

def declarationOf : Json → Option Declaration
  | .obj members => do
      let attributes ← members.mapM fun m => m.2.asText.map (m.1, ·)
      return .ofList attributes
  | _ => none

def controlsOf : Json → Option (List Control) :=
  Json.asList Control.ofJson?

def validatorsOf : Json → Option (List Declaration) :=
  Json.asList declarationOf

def ofJson? : Json → Option Form
  | .obj members => do
      let controls ← Json.defaulted "controls" [] controlsOf members
      let validators ← Json.defaulted "validators" [] validatorsOf members
      return ⟨controls, validators⟩
  | .arr [] => some .empty
  | .arr [controls] => return ⟨← controlsOf controls, []⟩
  | .arr [controls, validators] => return ⟨← controlsOf controls, ← validatorsOf validators⟩
  | _ => none

/-- The form that a text describes. -/
def ofText (text : String) : Except Error Form :=
  match (Json.readMembers? ["controls", "validators"] text).bind ofJson? with
  | some f => .ok f
  | none => .error (.configuration .invalidForm)

end Form
end FormValidation
