import FormValidation.NameMap
import FormValidation.Rule.Attributes

/-!
# Forms

A form is a list of controls and a list of rule declarations.  An id stands for the first control that
has it.  Every element but those of other kinds has a value, which is a text; `Form.read` reads it and
`Form.setValue` writes it.

The attributes of a declaration are a map that may be read in any order.  Which one it is can be noticed, if a
name is given twice in the same way; so a form knows the order (`Declaration`), and forms that differ in nothing
else are the same form read in another way.
-/

namespace FormValidation

/-! ## Elements -/

structure SelectOption where
  value : String
  selected : Bool
  deriving Repr, DecidableEq

inductive Element where
  | input (type value : String) (checked : Bool)
  | textarea (value : String)
  | select (options : List SelectOption)
  | other (name : String)
  deriving Repr, DecidableEq

namespace Element

/-- Whether an input of the given type has its value only while it is checked. -/
def isCheckable (type : String) : Bool :=
  Text.sameLetters type "checkbox" || Text.sameLetters type "radio"

/-- The value of the element of the control with the given id. -/
def read (id : String) : Element → Except Error String
  | .input type value checked => .ok (if isCheckable type && !checked then "" else value)
  | .textarea value => .ok value
  | .select options => .ok (",".intercalate ((options.filter (·.selected)).map (·.value)))
  | .other name => .error (.unsupportedElement id name)

/-- The element after a value was written to it.  A checkable input is checked if that is its value; the
options whose values are pieces of the text between commas are selected. -/
def write (value : String) : Element → Element
  | .input type old checked =>
      -- The value of a checkable input stays as it is.
      if isCheckable type then .input type old (old == value) else .input type value checked
  | .textarea _ => .textarea value
  | .select options =>
      .select (options.map fun o => { o with selected := (Text.split ',' value).contains o.value })
  | .other name => .other name

end Element

/-! ## Forms -/

/-- An element with an id. -/
structure Control where
  id : String
  element : Element
  deriving Repr, DecidableEq

/-- What a rule is declared by: attributes with distinct names, in the order in which they are read.  They make
up a map, and the order is not part of it; two declarations of the same map may be read in two orders. -/
structure Declaration where
  attributes : Attributes
  nodup : (attributes.map Prod.fst).Nodup

/-- The declaration of a map that is given as a list, later attributes going before earlier ones of the same
name.  Of the orders in which it can be read this is the one by names. -/
def Declaration.ofList (l : Attributes) : Declaration where
  attributes := (NameMap.ofList l).entries
  nodup := (NameMap.ofList l).nodup_names

/-- A form. -/
structure Form where
  controls : List Control
  validators : List Declaration

namespace Form

def empty : Form where
  controls := []
  validators := []

def control? (f : Form) (id : String) : Option Control :=
  f.controls.find? fun c => c.id == id

/-- The id of a control, if the form has it. -/
def resolve (f : Form) (id : String) : Except Error String :=
  match f.control? id with
  | some c => .ok c.id
  | none => .error (.controlNotFound id)

def read (f : Form) (id : String) : Except Error String :=
  match f.control? id with
  | some c => c.element.read id
  | none => .error (.controlNotFound id)

/-- The declared rules; the first declaration that is refused decides. -/
def rules (f : Form) : Except Error (List Rule) :=
  f.validators.mapM fun d => Rule.ofAttributes d.attributes

/-! ## Changes -/

/-- Writes a value to the first control of an id. -/
def writeFirst (id value : String) : List Control → List Control
  | [] => []
  | c :: rest =>
      if c.id == id then { c with element := c.element.write value } :: rest
      else c :: writeFirst id value rest

/-- Writes a value to a control; the flag says whether the form has it. -/
def setValue (f : Form) (id value : String) : Form × Bool :=
  ({ f with controls := writeFirst id value f.controls }, (f.control? id).isSome)

def addControl (f : Form) (id : String) (element : Element) : Form :=
  { f with controls := f.controls ++ [⟨id, element⟩] }

def addValidator (f : Form) (attributes : Attributes) : Form :=
  { f with validators := f.validators ++ [.ofList attributes] }

end Form
end FormValidation
