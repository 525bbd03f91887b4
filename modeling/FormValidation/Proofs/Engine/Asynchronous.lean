import FormValidation.Proofs.Engine.Settling
import FormValidation.Proofs.Engine.Synchronous

/-!
# The walk of an asynchronous run

The walk of an asynchronous run defers the rules whose validators take time (`Engine.deferrals`) and does
with all others what a synchronous run does (`asynchronousStep_of_not_defers`).  What comes after it is
the settling of the deferred rules (`validateAsync_eq_settle`).
-/

namespace FormValidation
namespace Engine

variable {e : Engine} {l : Locale} {form : Form} {requested : Option String} {r : Rule}

/-! ## Deferred rules -/

/-- Whether the request asks for a custom rule that names an asynchronous validator. -/
def Defers (e : Engine) (requested : Option String) (r : Rule) : Prop :=
  r.isApplicable requested = true ∧ r.kind = .custom ∧
    ∃ name start, r.validator e.validators = .ok (name, .asynchronous start)

/-- The call that starts an asynchronous validator for a rule that the request asks for, and the course
that the validator takes then. -/
def asynchronous? (e : Engine) (form : Form) (requested : Option String) (r : Rule) :
    Option (Call × Course) :=
  if r.isApplicable requested ∧ r.kind = .custom then
    match r.validator e.validators, r.value? form with
    | .ok (name, .asynchronous start), .ok value => some (⟨name, value⟩, start value)
    | _, _ => none
  else none

/-- The deferred ones among rules, with their positions. -/
def deferrals (e : Engine) (form : Form) (requested : Option String) (rules : List Rule) :
    List Deferred :=
  rules.zipIdx.filterMap fun r =>
    (e.asynchronous? form requested r.1).map fun p => ⟨r.2, r.1.control, p.1, p.2⟩

theorem asynchronous?_of_not_defers (h : ¬e.Defers requested r) :
    e.asynchronous? form requested r = none := by
  unfold asynchronous?
  split
  · rename_i hr
    split
    · rename_i name start value hv _
      exact absurd ⟨hr.1, hr.2, name, start, hv⟩ h
    · rfl
  · rfl

/-- A rule that is not deferred takes the step of a synchronous run. -/
theorem asynchronousStep_of_not_defers (h : ¬e.Defers requested r) :
    e.asynchronousStep l form requested r = e.synchronousStep l form requested r := by
  unfold asynchronousStep synchronousStep
  cases r.checkDeclaration form with
  | error x => rfl
  | ok control =>
      by_cases ha : r.isApplicable requested = true
      · by_cases hk : r.kind = .custom
        · cases hv : r.validator e.validators with
          | error x =>
              -- Both runs miss a validator that is not registered.
              simp [ha, hk, hv, evaluateNow, Rule.evaluateOn, Rule.delegate, bind, Except.bind]
          | ok p =>
              rcases p with ⟨name, decide | start⟩
              · simp [ha, hk, bind, Except.bind]
              · exact absurd ⟨ha, hk, name, start, hv⟩ h
        · simp [ha, hk, bind, Except.bind]
      · simp [ha, bind, Except.bind]

/-- A rule that names an asynchronous validator is deferred as soon as its value is read. -/
theorem asynchronousStep_of_defers {name : String} {start : Option String → Course}
    (hc : r.checkDeclaration form = .ok r.control) (ha : r.isApplicable requested = true)
    (hk : r.kind = .custom) (hv : r.validator e.validators = .ok (name, .asynchronous start)) :
    e.asynchronousStep l form requested r =
      (r.value? form).map fun value => .deferred r.control ⟨name, value⟩ (start value) := by
  unfold asynchronousStep Rule.value?
  cases hvalue : r.control.mapM form.read <;>
    simp [hc, ha, hk, hv, hvalue, bind, Except.bind, pure, Except.pure, Except.map]

/-- In a synchronous run a rule that names an asynchronous validator is refused. -/
theorem verdict?_of_defers (h : e.Defers requested r) :
    e.verdict? l form requested r = none := by
  rcases h with ⟨ha, hk, name, start, hv⟩
  cases hc : r.checkDeclaration form with
  | error x => simp [verdict?, ha, Rule.evaluate, hc, bind, Except.bind]
  | ok control =>
      rw [verdict?, if_pos ha, Rule.evaluate_of_checkDeclaration hc]
      simp [Rule.evaluateOn, hk, Rule.delegate, hv, bind, Except.bind]

/-! ## Steps of the walk -/

theorem deferred?_synchronousStep (index : Nat) :
    StepResult.deferred? (e.synchronousStep l form requested r) index = none := by
  have hstep : StepResult.error? (e.synchronousStep l form requested r) = _ :=
    error?_synchronousStep r
  cases h : e.refusal? l form requested r with
  | none =>
      rcases synchronousStep_of_refusal?_eq_none h with ⟨-, hs⟩ | ⟨-, evaluation, -, hs, -⟩ <;>
        simp [hs, StepResult.deferred?]
  | some x =>
      rw [h] at hstep
      cases hs : e.synchronousStep l form requested r <;>
        simp_all [StepResult.error?, StepResult.deferred?]

/-- What the walk of an asynchronous run makes of a rule that it does not refuse: the events and the
verdict of a synchronous run, or a deferred rule. -/
theorem asynchronousStep_of_ok
    (h : StepResult.error? (e.asynchronousStep l form requested r) = none) (index : Nat) :
    StepResult.events (e.asynchronousStep l form requested r) = e.ruleEvents l form requested r ∧
      StepResult.verdictAt? (e.asynchronousStep l form requested r) index =
        (e.verdict? l form requested r).map (fun v => (index, v)) ∧
      StepResult.deferred? (e.asynchronousStep l form requested r) index =
        (e.asynchronous? form requested r).map fun p => ⟨index, r.control, p.1, p.2⟩ := by
  by_cases hd : e.Defers requested r
  · have hverdict : e.verdict? l form requested r = none := verdict?_of_defers hd
    rcases hd with ⟨ha, hk, name, start, hv⟩
    cases hc : r.checkDeclaration form with
    | error x => simp [asynchronousStep, hc, bind, Except.bind, StepResult.error?] at h
    | ok control =>
        rcases Rule.checkDeclaration_eq_ok hc with rfl
        rw [asynchronousStep_of_defers hc ha hk hv] at h ⊢
        cases hvalue : r.value? form with
        | error x => simp [hvalue, Except.map, StepResult.error?] at h
        | ok value =>
            -- The rule is deferred, so there are neither events nor a verdict of it yet.
            simp [Except.map, StepResult.events, StepResult.verdictAt?, StepResult.deferred?, ruleEvents,
              hverdict, asynchronous?, ha, hk, hv, hvalue]
  · -- The other rules take the step of a synchronous run.
    rw [asynchronousStep_of_not_defers hd] at h ⊢
    have hnone := (error?_synchronousStep r).symm.trans h
    refine ⟨events_synchronousStep hnone, verdictAt?_synchronousStep hnone index, ?_⟩
    rw [deferred?_synchronousStep, asynchronous?_of_not_defers hd]
    rfl

theorem deferredFrom_asynchronousStep {rules : List Rule}
    (h : ∀ r ∈ rules, StepResult.error? (e.asynchronousStep l form requested r) = none) :
    deferredFrom (e.asynchronousStep l form requested) 0 rules = e.deferrals form requested rules := by
  unfold deferredFrom deferrals
  apply List.filterMap_congr
  intro r hr
  exact (asynchronousStep_of_ok (h r.1 (List.fst_mem_of_mem_zipIdx hr)) r.2).2.2

/-- The walk of an asynchronous run through rules of which it refuses none. -/
theorem beginRun_asynchronous {rules : List Rule} (hl : e.locales.current = .ok l)
    (hrules : form.rules = .ok rules)
    (h : ∀ r ∈ rules, StepResult.error? (e.asynchronousStep l form requested r) = none) :
    beginRun (fun l => e.asynchronousStep l form requested) e form requested =
      (.began requested :: rules.flatMap (e.ruleEvents l form requested),
        .ok ((({} : Accumulation).begin).recordAll
          (entriesFrom (e.asynchronousStep l form requested) 0 rules),
          e.deferrals form requested rules)) := by
  have hevents := List.flatMap_congr fun r hr => (asynchronousStep_of_ok (h r hr) 0).1
  rw [beginRun_eq _ hl hrules, scan_eq_of_ok h, hevents, deferredFrom_asynchronousStep h]

/-- An asynchronous run whose walk refuses no rule: then the deferred rules settle. -/
theorem validateAsync_eq_settle {rules : List Rule} (patience : Option Nat)
    (hl : e.locales.current = .ok l) (hrules : form.rules = .ok rules)
    (h : ∀ r ∈ rules, StepResult.error? (e.asynchronousStep l form requested r) = none) :
    e.validateAsync form requested patience =
      let onward := settle patience e.timeLimit ((({} : Accumulation).begin).recordAll
        (entriesFrom (e.asynchronousStep l form requested) 0 rules)) (e.deferrals form requested rules)
      (.began requested :: rules.flatMap (e.ruleEvents l form requested) ++ onward.1, onward.2) := by
  rw [validateAsync, beginRun_asynchronous hl hrules h]

end Engine
end FormValidation
