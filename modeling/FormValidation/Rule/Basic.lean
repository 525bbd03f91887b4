import FormValidation.Value.Comparison

/-!
# Rules

A rule asks something of the value of a control, or leaves the decision to a custom validator.  This
file defines the kinds of rules, their parts, and which rules a request for groups selects
(`Rule.isApplicable`).
-/

namespace FormValidation

/-! ## Kinds -/

inductive RuleKind where
  | required
  | regexp
  | int
  | float
  | date
  | email
  | custom
  deriving Repr, DecidableEq

namespace RuleKind

def name : RuleKind → String
  | .required => "required"
  | .regexp => "regexp"
  | .int => "int"
  | .float => "float"
  | .date => "date"
  | .email => "email"
  | .custom => "custom"

def all : List RuleKind :=
  [.required, .regexp, .int, .float, .date, .email, .custom]

/-- The kind that a text names, in any case and with any white space around it. -/
def ofText (text : String) : Except Error RuleKind :=
  match all.find? fun kind => Text.sameLetters kind.name (Text.trim text) with
  | some kind => .ok kind
  | none => .error (.unknownRuleKind text)

/-- The kind of values that rules of a kind compare, if they compare any. -/
def valueKind? : RuleKind → Option ValueKind
  | .int => some .int
  | .float => some .float
  | .date => some .date
  | _ => none

end RuleKind

/-! ## Parts -/

/-- What a value is compared with. -/
inductive Operand where
  | value (text : String)
  | control (id : String)
  deriving Repr, DecidableEq

/-- The comparison of a rule, possibly without the operand that it needs. -/
structure Comparison where
  operator : Operator
  operand : Option Operand
  /-- The upper bound of a range. -/
  max : Option String
  deriving Repr, DecidableEq

namespace Comparison

def withValue (operator : Operator) (text : String) : Comparison :=
  ⟨operator, some (.value text), none⟩

def withControl (operator : Operator) (id : String) : Comparison :=
  ⟨operator, some (.control id), none⟩

def range (min max : String) : Comparison :=
  ⟨.range, some (.value min), some max⟩

end Comparison

/-- A rule. -/
structure Rule where
  kind : RuleKind
  control : Option String := none
  message : Option String := none
  enabled : Bool := true
  /-- The groups that the rule belongs to, separated by commas. -/
  group : Option String := none
  comparison : Option Comparison := none
  pattern : Option String := none
  /-- The name of the custom validator that decides. -/
  function : Option String := none
  deriving Repr, DecidableEq

namespace Rule

/-- A rule about a control with a message for the case that it fails. -/
def about (kind : RuleKind) (control message : String) : Rule :=
  { kind, control := some control, message := some message }

/-- What a rule is called when its declaration is refused. -/
def label (r : Rule) : String :=
  (r.control <|> r.function).getD r.kind.name

/-! ## Groups -/

/-- Whether a rule is evaluated when the groups of `requested` are asked for.  A request without any
text asks for all rules; every other request asks for those that share a group with it. -/
def isApplicable (r : Rule) (requested : Option String) : Bool :=
  r.enabled &&
    match requested with
    | none => true
    | some request =>
        Text.trim request == "" ||
          match r.group with
          | none => false
          | some group => (Text.pieces group).any (Text.pieces request).contains

end Rule
end FormValidation
