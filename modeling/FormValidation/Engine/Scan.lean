import FormValidation.Engine.Basic
import FormValidation.Engine.Event

/-!
# Walking through the rules of a form

A run walks through the rules in the order of their declaration.  The declaration of every rule is
checked, also of those that the request leaves out.  A rule that the request asks for is evaluated at
once or, if an asynchronous validator decides, deferred.  The first error ends the walk.
-/

namespace FormValidation

/-- A rule whose validator is to be started after the walk. -/
structure Deferred where
  /-- The position of the rule among the declarations. -/
  index : Nat
  control : Option String
  call : Call
  course : Course
  deriving Repr, DecidableEq

/-- What the walk does about a rule. -/
inductive RuleStep where
  | skipped
  | evaluated (evaluation : Evaluation)
  | deferred (control : Option String) (call : Call) (course : Course)
  deriving Repr, DecidableEq

namespace Engine

/-! ## One rule -/

/-- The step for a rule that the request asks for and that is not deferred. -/
def evaluateNow (e : Engine) (l : Locale) (form : Form) (r : Rule) (control : Option String) :
    Except Error RuleStep := do
  return .evaluated (← r.evaluateOn l e.validators form control)

/-- The step for a rule in a run in which nothing takes time. -/
def synchronousStep (e : Engine) (l : Locale) (form : Form) (requested : Option String) (r : Rule) :
    Except Error RuleStep := do
  let control ← r.checkDeclaration form
  if r.isApplicable requested then e.evaluateNow l form r control else return .skipped

/-- The step for a rule in a run that waits for asynchronous validators. -/
def asynchronousStep (e : Engine) (l : Locale) (form : Form) (requested : Option String)
    (r : Rule) : Except Error RuleStep := do
  let control ← r.checkDeclaration form
  if !r.isApplicable requested then return .skipped
  else if r.kind = .custom then
    match ← r.validator e.validators with
    | (name, .asynchronous start) =>
        -- The value is read during the walk, before any deferred validator is started.
        let value ← control.mapM form.read
        return .deferred control ⟨name, value⟩ (start value)
    | (_, .synchronous _) => e.evaluateNow l form r control
  else e.evaluateNow l form r control

/-! ## All rules -/

/-- Walks through rules of which the first is at the given position: the events, and in the end the
verdicts and the deferred rules, or an error. -/
def scan (step : Rule → Except Error RuleStep) :
    Nat → Accumulation → List Rule →
      List Event × Except Error (Accumulation × List Deferred)
  | _, a, [] => ([], .ok (a, []))
  | index, a, r :: rules =>
      match step r with
      | .error e => ([], .error e)
      | .ok .skipped => scan step (index + 1) a rules
      | .ok (.evaluated evaluation) =>
          let (events, result) := scan step (index + 1) (a.record index evaluation.verdict) rules
          (evaluation.events ++ events, result)
      | .ok (.deferred control call course) =>
          let (events, result) := scan step (index + 1) a rules
          (events, result.map fun (a, deferred) => (a, ⟨index, control, call, course⟩ :: deferred))

/-- Begins a run on a form and walks through its rules. -/
def beginRun (step : Locale → Rule → Except Error RuleStep) (e : Engine) (form : Form)
    (requested : Option String) :
    List Event × Except Error (Accumulation × List Deferred) :=
  match e.locales.current with
  | .error x => ([], .error x)
  | .ok l =>
      match form.rules with
      | .error x => ([.began requested], .error x)
      | .ok rules =>
          let (events, result) := scan (step l) 0 (({} : Accumulation).begin) rules
          (.began requested :: events, result)

end Engine
end FormValidation
