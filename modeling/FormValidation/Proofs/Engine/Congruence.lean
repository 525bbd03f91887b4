import FormValidation.Engine.Run
import FormValidation.Proofs.Engine.Scan
import FormValidation.Proofs.Rule.Evaluation

/-!
# Runs that come to the same

A run is made of what becomes of the declared rules one by one.  So engines with the same validators and the same
time limit go through runs with the same events and the same end, under different locales and on different forms,
if the forms declare the same rules and every rule comes to the same (`Rule.Alike`, `Engine.runs_congr`).
-/

namespace FormValidation

/-- Under two locales and on two forms a rule comes to the same: its declaration is checked and its control is read
with the same result, and the rule is evaluated with the same result, if it is asked for. -/
structure Rule.Alike (registry : Registry) (requested : Option String) (l l' : Locale) (f g : Form)
    (r : Rule) : Prop where
  declaration : r.checkDeclaration f = r.checkDeclaration g
  value : r.value? f = r.value? g
  evaluation : r.isApplicable requested = true →
    r.evaluateOn l registry f r.control = r.evaluateOn l' registry g r.control

namespace Engine

variable {e e' : Engine} {l l' : Locale} {f g : Form} {requested : Option String} {r : Rule}

/-! ## Steps -/

theorem evaluateNow_congr (hvalidators : e.validators = e'.validators)
    (h : r.Alike e.validators requested l l' f g) (happlicable : r.isApplicable requested = true) :
    e.evaluateNow l f r r.control = e'.evaluateNow l' g r r.control := by
  rw [evaluateNow, evaluateNow, h.evaluation happlicable, hvalidators]

theorem synchronousStep_congr (hvalidators : e.validators = e'.validators)
    (h : r.Alike e.validators requested l l' f g) :
    e.synchronousStep l f requested r = e'.synchronousStep l' g requested r := by
  unfold synchronousStep
  rw [h.declaration]
  refine bind_congr_of_eq_ok ?_
  intro control hcontrol
  rcases Rule.checkDeclaration_eq_ok hcontrol with rfl
  by_cases happlicable : r.isApplicable requested = true
  · rw [evaluateNow_congr hvalidators h happlicable]
  · rw [if_neg happlicable, if_neg happlicable]

theorem asynchronousStep_congr (hvalidators : e.validators = e'.validators)
    (h : r.Alike e.validators requested l l' f g) :
    e.asynchronousStep l f requested r = e'.asynchronousStep l' g requested r := by
  unfold asynchronousStep
  rw [h.declaration]
  refine bind_congr_of_eq_ok ?_
  intro control hcontrol
  rcases Rule.checkDeclaration_eq_ok hcontrol with rfl
  by_cases happlicable : r.isApplicable requested = true
  · -- A deferred rule reads its value during the walk, any other one when it is evaluated.
    have hvalue : r.control.mapM f.read = r.control.mapM g.read := h.value
    rw [hvalue, evaluateNow_congr hvalidators h happlicable, hvalidators]
  · simp [happlicable]

/-! ## Runs -/

/-- Of the locales a walk needs only that one of them is active. -/
theorem beginRun_congr {step step' : Locale → Rule → StepResult} (hl : e.locales.current = .ok l)
    (hl' : e'.locales.current = .ok l') (hrules : f.rules = g.rules)
    (h : ∀ rules, f.rules = .ok rules → ∀ r ∈ rules, step l r = step' l' r) (requested : Option String) :
    beginRun step e f requested = beginRun step' e' g requested := by
  unfold beginRun
  rw [hl, hl', ← hrules]
  cases hdeclared : f.rules with
  | error x => rfl
  | ok rules => simp only [scan_congr (h rules hdeclared)]

theorem runs_congr (hvalidators : e.validators = e'.validators) (htimeLimit : e.timeLimit = e'.timeLimit)
    (hl : e.locales.current = .ok l) (hl' : e'.locales.current = .ok l') (hrules : f.rules = g.rules)
    (h : ∀ rules, f.rules = .ok rules → ∀ r ∈ rules, r.Alike e.validators requested l l' f g) :
    e.validate f requested = e'.validate g requested ∧
      ∀ patience, e.validateAsync f requested patience = e'.validateAsync g requested patience := by
  constructor
  · have hbegin : beginRun (fun l => e.synchronousStep l f requested) e f requested =
        beginRun (fun l => e'.synchronousStep l g requested) e' g requested :=
      beginRun_congr hl hl' hrules
        (fun rules hdeclared r hr => synchronousStep_congr hvalidators (h rules hdeclared r hr)) requested
    rw [validate, validate, hbegin]
  · intro patience
    have hbegin : beginRun (fun l => e.asynchronousStep l f requested) e f requested =
        beginRun (fun l => e'.asynchronousStep l g requested) e' g requested :=
      beginRun_congr hl hl' hrules
        (fun rules hdeclared r hr => asynchronousStep_congr hvalidators (h rules hdeclared r hr)) requested
    rw [validateAsync, validateAsync, hbegin, htimeLimit]

/-- Without an active locale all runs fail in the same way, before a form is looked at. -/
theorem runs_of_current_eq_error {x : Error} (h : e.locales.current = .error x) (f : Form)
    (requested : Option String) :
    e.validate f requested = ([], .error x) ∧
      ∀ patience, e.validateAsync f requested patience = ([], .failed x) := by
  constructor
  · simp [validate, beginRun, h]
  · intro patience
    simp [validateAsync, beginRun, h]

end Engine
end FormValidation
