import FormValidation.Form.Basic
import FormValidation.Text.Email
import FormValidation.Validator.Basic

/-!
# Evaluating rules

A rule is evaluated in two steps.  `Rule.checkDeclaration` asks whether the rule declares all that its
kind needs and whether the form has the controls it names, and gives the control that the rule is about.
`Rule.evaluateOn` then reads the value of that control and gives a verdict.  An empty value passes every
rule that does not require one.
-/

namespace FormValidation

/-! ## Verdicts -/

/-- What came out of the evaluation of a rule. -/
structure Verdict where
  passed : Bool
  message : Option String
  /-- The control that the rule is about. -/
  control : Option String
  deriving Repr, DecidableEq

namespace Verdict

/-- The verdict of a rule that does not leave the decision to a validator. -/
def ofCheck (rule : Rule) (passed : Bool) (control : Option String) : Verdict :=
  ⟨passed, if passed then none else rule.message, control⟩

/-- The verdict of a rule for which a validator decided. -/
def ofDecision (decision : Decision) (control : Option String) : Verdict :=
  ⟨decision.valid, if decision.valid then none else decision.message, control⟩

end Verdict

/-- A custom validator that was called with a value. -/
structure Call where
  name : String
  value : Option String
  deriving Repr, DecidableEq

/-- A verdict, and the call of a validator that led to it. -/
structure Evaluation where
  verdict : Verdict
  call : Option Call
  deriving Repr, DecidableEq

/-! ## Declarations -/

namespace Rule

/-- The error about an attribute that the rule lacks. -/
def missing (r : Rule) (name : String) : Error :=
  .missingAttribute r.kind.name name

/-- Whether the attributes that every rule of the kind needs are there. -/
def checkNeeded (r : Rule) : Except Error Unit :=
  if r.kind = .custom then
    if r.function = none then .error (r.missing "function") else .ok ()
  else if r.message = none then .error (r.missing "message")
  else if r.control = none then .error (r.missing "control")
  else .ok ()

/-- Whether the comparison of a rule that compares values has all it needs. -/
def checkComparison (form : Form) (r : Rule) : Except Error Unit :=
  match r.kind.valueKind?, r.comparison with
  | some _, some c => do
      match c.operand with
      | none => .error (r.missing "comparevalue")
      | some (.control id) => discard (form.resolve id)
      | some (.value _) => .ok ()
      if c.operator = .range ∧ c.max = none then .error (r.missing "comparemaxvalue") else .ok ()
  | _, _ => .ok ()

/-- Checks the declaration of a rule and gives the control that it is about. -/
def checkDeclaration (form : Form) (r : Rule) : Except Error (Option String) := do
  r.checkNeeded
  let control ← r.control.mapM form.resolve
  r.checkComparison form
  return control

/-! ## Verdicts of rules -/

def readValue (form : Form) (r : Rule) (control : Option String) : Except Error String :=
  match control with
  | some id => form.read id
  | none => .error (r.missing "control")

/-- Whether a value matches the pattern of the rule. -/
def matchesPattern (form : Form) (r : Rule) (control : Option String) : Except Error Bool :=
  match r.pattern with
  | none => .error (r.missing "pattern")
  | some source =>
      -- The pattern is read before the value, so it is refused for empty values too.
      match Pattern.read? source with
      | none => .error (.invalidPattern source)
      | some pattern => do
          let value ← r.readValue form control
          return value == "" || pattern.isMatch value

def operandText (form : Form) (r : Rule) (c : Comparison) : Except Error String :=
  match c.operand with
  | some (.value text) => .ok text
  | some (.control id) => do form.read (← form.resolve id)
  | none => .error (r.missing "comparevalue")

/-- Whether a value is of a kind and the comparison of the rule holds. -/
def matchesKind (l : Locale) (form : Form) (r : Rule) (kind : ValueKind) (control : Option String) :
    Except Error Bool := do
  let value ← r.readValue form control
  -- The operand of a comparison is not looked at if there is no value.
  if value == "" then return true
  else
    match r.comparison with
    | none => return (Value.read? l kind value).isSome
    | some c =>
        let operand ← r.operandText form c
        return (← l.compare kind value c.operator operand c.max).isPassed

/-- Whether a rule that does not leave the decision to a validator passes. -/
def passes (l : Locale) (form : Form) (r : Rule) (control : Option String) : Except Error Bool :=
  match r.kind with
  | .required => return (← r.readValue form control) != ""
  | .regexp => r.matchesPattern form control
  | .int => r.matchesKind l form .int control
  | .float => r.matchesKind l form .float control
  | .date => r.matchesKind l form .date control
  | .email => do
      let value ← r.readValue form control
      return value == "" || Email.isAddress value
  | .custom => return false

/-! ## Rules with a validator -/

/-- The name of the validator that the rule leaves the decision to, and the validator. -/
def validator (registry : Registry) (r : Rule) : Except Error (String × CustomValidator) :=
  match r.function with
  | none => .error (r.missing "function")
  | some name =>
      match registry.get? name with
      | none => .error (.unregisteredValidator name)
      | some validator => .ok (name, validator)

/-- Leaves the decision to a synchronous validator. -/
def delegate (registry : Registry) (form : Form) (r : Rule) (control : Option String) :
    Except Error Evaluation := do
  match ← r.validator registry with
  -- It is refused before the value is read.
  | (name, .asynchronous _) => .error (.asynchronousInSynchronousRun name)
  | (name, .synchronous decide) =>
      let value ← control.mapM form.read
      return ⟨.ofDecision (decide value) control, some ⟨name, value⟩⟩

/-! ## Evaluation -/

/-- Evaluates a rule whose declaration was checked, on the control that the rule is about. -/
def evaluateOn (l : Locale) (registry : Registry) (form : Form) (r : Rule)
    (control : Option String) : Except Error Evaluation :=
  if r.kind = .custom then r.delegate registry form control
  else do
    let passed ← r.passes l form control
    return ⟨.ofCheck r passed control, none⟩

def evaluate (l : Locale) (registry : Registry) (form : Form) (r : Rule) :
    Except Error Evaluation := do
  let control ← r.checkDeclaration form
  r.evaluateOn l registry form control

end Rule
end FormValidation
