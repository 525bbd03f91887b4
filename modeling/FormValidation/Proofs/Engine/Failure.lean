import FormValidation.Proofs.Engine.Configured
import FormValidation.Proofs.Engine.Declaration
import FormValidation.Proofs.Engine.FailFast

/-!
# What runs fail with

Where a locale is active a run fails because the declarations of the form are no rules, because it refuses a
rule (`Engine.Refuses`), or, if it waits for asynchronous validators, because of one of these (`Engine.Breaks`).
The first two are errors about rules, and a run that waits for asynchronous validators never complains that one
is asynchronous (`fails_of_configured`).
-/

namespace FormValidation

/-! ## Asynchronous validators -/

/-- Whether an error is what an asynchronous validator comes to. -/
def Error.isOfValidator : Error → Bool
  | .rejected _ _ | .timedOut _ _ => true
  | _ => false

/-- A validator fails by rejecting in time, or by running out of time. -/
theorem Deferred.failure?_eq_some {limit : Option Nat} {d : Deferred} {x : Error}
    (h : d.failure? limit = some x) :
    (∃ delay reason, d.course = .settles delay (.rejected reason) ∧ (∀ t ∈ limit, delay ≤ t) ∧
        x = .rejected d.call.name reason) ∨
      ∃ t, limit = some t ∧ (∀ delay settlement, d.course = .settles delay settlement → t < delay) ∧
        x = .timedOut d.call.name t := by
  rcases d with ⟨index, control, call, course⟩
  cases course with
  | never =>
      cases limit with
      | none => simp [failure?, outOfTime?, rejection?] at h
      | some t => exact .inr ⟨t, rfl, by simp, by simpa [failure?, outOfTime?, eq_comm] using h⟩
  | settles delay settlement =>
      by_cases hlate : ∃ t, limit = some t ∧ t < delay
      · rcases hlate with ⟨t, rfl, hlt⟩
        exact .inr ⟨t, rfl, by simp [hlt], by simpa [failure?, outOfTime?, hlt, eq_comm] using h⟩
      · have hintime : ∀ t ∈ limit, delay ≤ t := fun t ht => Nat.le_of_not_lt fun hlt => hlate ⟨t, ht, hlt⟩
        have hout : Deferred.outOfTime? limit ⟨index, control, call, .settles delay settlement⟩ = none := by
          cases limit with
          | none => rfl
          | some t => simpa [outOfTime?] using hintime t rfl
        -- In time a validator fails only by rejecting.
        cases settlement with
        | decided decision => simp [failure?, hout, rejection?] at h
        | rejected reason =>
            exact .inl ⟨delay, reason, rfl, hintime, by simpa [failure?, hout, rejection?, eq_comm] using h⟩

namespace Engine

variable {e : Engine} {l : Locale} {form : Form} {requested : Option String} {r : Rule}
  {patience limit : Option Nat} {x : Error}

/-- The request asks for a custom rule that names an asynchronous validator; the call of the validator, and the
course that it takes. -/
structure Starts (e : Engine) (form : Form) (requested : Option String) (r : Rule) (call : Call)
    (course : Course) : Prop where
  applicable : r.isApplicable requested = true
  custom : r.kind = .custom
  names : r.function = some call.name
  value : r.value? form = .ok call.value
  registered : ∃ start, e.validators.get? call.name = some (.asynchronous start) ∧ course = start call.value

theorem starts_of_asynchronous? {call : Call} {course : Course}
    (h : e.asynchronous? form requested r = some (call, course)) : e.Starts form requested r call course := by
  unfold asynchronous? at h
  split at h
  · rename_i hr
    split at h
    · rename_i name start value hv hvalue
      rcases Rule.validator_eq_ok hv with ⟨hname, hget⟩
      cases h
      exact ⟨hr.1, hr.2, hname, hvalue, start, hget, rfl⟩
    · cases h
  · cases h

/-- How the asynchronous validator of a rule ends a run: it rejects in time, or it takes longer than the time
limit. -/
inductive Breaks (e : Engine) (form : Form) (requested : Option String) (r : Rule) : Error → Prop where
  | rejected {call : Call} {delay : Nat} {reason : String}
      (hstarts : e.Starts form requested r call (.settles delay (.rejected reason)))
      (hintime : ∀ t ∈ e.timeLimit, delay ≤ t) : Breaks e form requested r (.rejected call.name reason)
  | timedOut {call : Call} {course : Course} {t : Nat} (hstarts : e.Starts form requested r call course)
      (hlimit : e.timeLimit = some t)
      (hlate : ∀ delay settlement, course = .settles delay settlement → t < delay) :
      Breaks e form requested r (.timedOut call.name t)

theorem Breaks.isOfValidator (h : e.Breaks form requested r x) : x.isOfValidator = true := by
  cases h <;> rfl

/-- What fails after the walk is the validator of a rule. -/
theorem exists_breaks_of_failure {rules : List Rule} {d : Deferred} (hd : d ∈ e.deferrals form requested rules)
    (hx : d.failure? e.timeLimit = some x) : ∃ r ∈ rules, e.Breaks form requested r x := by
  rcases List.mem_filterMap.1 hd with ⟨⟨r, index⟩, hr, hd⟩
  rcases Option.map_eq_some_iff.1 hd with ⟨⟨call, course⟩, hcall, rfl⟩
  refine ⟨r, List.fst_mem_of_mem_zipIdx hr, ?_⟩
  have hstarts := starts_of_asynchronous? hcall
  rcases Deferred.failure?_eq_some hx with ⟨delay, reason, hcourse, hintime, rfl⟩ | ⟨t, ht, hlate, rfl⟩
  · obtain rfl : course = _ := hcourse
    exact .rejected hstarts hintime
  · exact .timedOut hstarts ht hlate

/-! ## Walks -/

/-- Why the walk of a run fails where a locale is active. -/
inductive WalkFails (step : Rule → StepResult) (form : Form) (x : Error) : Prop where
  /-- The declarations are no rules. -/
  | undiscovered (hrules : form.rules = .error x)
  | refused {rules : List Rule} {r : Rule} (hrules : form.rules = .ok rules) (hr : r ∈ rules)
      (hx : step r = .error x)

theorem failsOnly_beginRun (step : Locale → Rule → StepResult) (hl : e.locales.current = .ok l) (form : Form)
    (requested : Option String) : FailsOnly (WalkFails (step l) form) (beginRun step e form requested).2 := by
  intro x hx
  rcases beginRun_cases step hl form requested with
    ⟨x', hrules, hrun⟩ | ⟨done, r, rest, x', hrules, hstep, hrun⟩ | ⟨rules, -, -, hrun⟩
  · rw [hrun] at hx
    cases hx
    exact .undiscovered hrules
  · rw [hrun] at hx
    cases hx
    exact .refused hrules (by simp) hstep
  · rw [hrun] at hx
    cases hx

/-- A walk that does not fail refuses no rule. -/
theorem exists_rules_of_beginRun_eq_ok {step : Locale → Rule → StepResult} (hl : e.locales.current = .ok l)
    {walked : Accumulation × List Deferred} (h : (beginRun step e form requested).2 = .ok walked) :
    ∃ rules, form.rules = .ok rules ∧ ∀ r ∈ rules, (step l r).error? = none := by
  rcases beginRun_cases step hl form requested with
    ⟨x, -, hrun⟩ | ⟨done, r, rest, x, -, -, hrun⟩ | ⟨rules, hrules, hnone, -⟩
  · rw [hrun] at h
    cases h
  · rw [hrun] at h
    cases h
  · exact ⟨rules, hrules, hnone⟩

theorem exists_control_of_asynchronousStep
    (h : StepResult.error? (e.asynchronousStep l form requested r) = none) :
    ∃ control, r.checkDeclaration form = .ok control := by
  cases hc : r.checkDeclaration form with
  | ok control => exact ⟨control, rfl⟩
  | error x => simp [asynchronousStep_of_checkDeclaration hc, StepResult.error?] at h

/-! ## Runs -/

theorem failsOnly_validate (hl : e.locales.current = .ok l) (form : Form) (requested : Option String) :
    FailsOnly (WalkFails (e.synchronousStep l form requested) form) (e.validate form requested).2 := by
  intro x hx
  rw [validate] at hx
  split at hx
  · rename_i events x' hbegin
    cases hx
    exact failsOnly_beginRun _ hl form requested _ (congrArg Prod.snd hbegin)
  · cases hx

/-- An asynchronous run fails in its walk, or, when the walk has refused no rule, because of the validator of a
rule. -/
theorem fails_of_validateAsync (hl : e.locales.current = .ok l)
    (h : (e.validateAsync form requested patience).2 = .failed x) :
    WalkFails (e.asynchronousStep l form requested) form x ∨
      ∃ rules, form.rules = .ok rules ∧
        (∀ r ∈ rules, StepResult.error? (e.asynchronousStep l form requested r) = none) ∧
        ∃ r ∈ rules, e.Breaks form requested r x := by
  rcases hbegin : beginRun (fun l => e.asynchronousStep l form requested) e form requested with
    ⟨events, x' | walked⟩
  · obtain rfl : x' = x := by simpa [validateAsync, hbegin] using h
    exact .inl (failsOnly_beginRun _ hl form requested x' (congrArg Prod.snd hbegin))
  · rcases exists_rules_of_beginRun_eq_ok hl (congrArg Prod.snd hbegin) with ⟨rules, hrules, hnone⟩
    have hindex : (e.deferrals form requested rules).Pairwise fun d d' => d.index < d'.index :=
      deferredFrom_asynchronousStep hnone ▸ pairwise_deferredFrom _ 0 rules
    -- Of the deferred validators one fails.
    rw [validateAsync_eq_settle patience hl hrules hnone] at h
    rcases settle_spec hindex _ (by rw [h]; simp) with ⟨started, settled, hsettling, -, -⟩
    rcases (hsettling.failed_iff x).1 h with ⟨d, hd, hx, -⟩
    exact .inr ⟨rules, hrules, hnone, exists_breaks_of_failure hd hx⟩

theorem WalkFails.isOfRule {step : Rule → StepResult}
    (hstep : ∀ r, FailsOnly (e.Refuses form requested r) (step r)) (h : WalkFails step form x) : x.isOfRule = true := by
  cases h with
  | undiscovered hrules => exact Rule.refusesOnly_rules form x hrules
  | refused _ _ hx => exact (hstep _ x hx).isOfRule

/-- A walk that waits for asynchronous validators does not complain that one is asynchronous. -/
theorem WalkFails.ne_asynchronous (h : WalkFails (e.asynchronousStep l form requested) form x) (name : String) :
    x ≠ .asynchronousInSynchronousRun name := by
  rintro rfl
  cases h with
  | undiscovered hrules =>
      rcases Rule.failsOnly_rules form _ hrules with ⟨attributes, -, h⟩
      cases h
  | refused _ _ hx => exact (failsOnly_asynchronousStep _ hx).2 name rfl

theorem isOfRule_of_validate (hl : e.locales.current = .ok l)
    (h : (e.validate form requested).2 = .error x) : x.isOfRule = true :=
  (failsOnly_validate hl form requested x h).isOfRule fun _ => failsOnly_synchronousStep

theorem isOfRun_of_validateAsync (hl : e.locales.current = .ok l)
    (h : (e.validateAsync form requested patience).2 = .failed x) :
    x.isOfRule = true ∨ x.isOfValidator = true := by
  rcases fails_of_validateAsync hl h with hwalk | ⟨-, -, -, r, -, hbreaks⟩
  · exact .inl (hwalk.isOfRule fun _ y hy => (failsOnly_asynchronousStep y hy).1)
  · exact .inr hbreaks.isOfValidator

/-- A synchronous run of an engine fails only with errors about rules, which are errors of what was declared or
configured.  So does an asynchronous run, and never because a validator is asynchronous, unless all declarations
are in order and the asynchronous validator of a rule that the request asks for rejects or runs out of time:
then the error names the validator, and the time limit that was set. -/
theorem fails_of_configured {e : Engine} (he : e.Configured) (form : Form) (requested : Option String)
    (patience : Option Nat) :
    (∀ x, (e.validate form requested).2 = .error x → x.isConfiguration = true ∧ x.isOfRule = true) ∧
    ∀ x, (e.validateAsync form requested patience).2 = .failed x →
      (∀ name, x ≠ .asynchronousInSynchronousRun name) ∧
      (x.isConfiguration = true ∧ x.isOfRule = true ∨
        x.isConfiguration = false ∧ ∃ rules, form.rules = .ok rules ∧
          (∀ r ∈ rules, ∃ control, r.checkDeclaration form = .ok control) ∧
          ∃ r ∈ rules, e.Breaks form requested r x) := by
  rcases he.exists_current with ⟨l, hl⟩
  refine ⟨?_, ?_⟩
  · intro x hx
    have hrule := isOfRule_of_validate hl hx
    exact ⟨Error.isConfiguration_of_isOfRule hrule, hrule⟩
  · intro x hx
    rcases fails_of_validateAsync hl hx with hwalk | ⟨rules, hrules, hnone, r, hr, hbreaks⟩
    · have hrule := hwalk.isOfRule fun _ y hy => (failsOnly_asynchronousStep y hy).1
      exact ⟨hwalk.ne_asynchronous, .inl ⟨Error.isConfiguration_of_isOfRule hrule, hrule⟩⟩
    · have hkind : (∀ name, x ≠ .asynchronousInSynchronousRun name) ∧ x.isConfiguration = false := by
        cases hbreaks <;> simp [Error.isConfiguration]
      refine ⟨hkind.1, .inr ⟨hkind.2, rules, hrules, ?_, r, hr, hbreaks⟩⟩
      exact fun r hr => exists_control_of_asynchronousStep (hnone r hr)

/-- An engine with an asynchronous validator that rejects. -/
def barred : Engine where
  validators := .ofList [("gate", .asynchronous fun _ => .settles 0 (.rejected "closed"))]
  timeLimit := some 10

/-- A form that calls it. -/
def barredForm : Form where
  controls := []
  validators := [.ofList [("validate", "custom"), ("function", "gate")]]

theorem fails_of_configured_barred :
    (barred.validate barredForm none).2 = .error (.asynchronousInSynchronousRun "gate") ∧
      (Error.asynchronousInSynchronousRun "gate").isConfiguration = true ∧
      (barred.validateAsync barredForm none none).2 = .failed (.rejected "gate" "closed") ∧
      ∃ rules, barredForm.rules = .ok rules ∧
        ∃ r ∈ rules, barred.Breaks barredForm none r (.rejected "gate" "closed") := by
  have he : barred.Configured := .setTimeLimit (.setValidators .initial barred.validators) (some 10)
  have hrun : (barred.validate barredForm none).2 = .error (.asynchronousInSynchronousRun "gate") := by
    decide +kernel
  have hwait : (barred.validateAsync barredForm none none).2 = .failed (.rejected "gate" "closed") := by
    decide +kernel
  have hfails := fails_of_configured he barredForm none none
  refine ⟨hrun, (hfails.1 _ hrun).1, hwait, ?_⟩
  rcases (hfails.2 _ hwait).2 with ⟨hconfiguration, -⟩ | ⟨-, rules, hrules, -, hbreaks⟩
  · cases hconfiguration
  · exact ⟨rules, hrules, hbreaks⟩

end Engine
end FormValidation
