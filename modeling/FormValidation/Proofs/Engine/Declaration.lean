import FormValidation.Proofs.Engine.Asynchronous
import FormValidation.Proofs.Rule.Refusal

/-!
# Declarations are checked in every run

A form whose declarations do not pass their check (`Form.Misdeclared`) ends every run with an error of what
was declared or configured, whichever group is requested and wherever the bad declaration stands
(`fails_of_misdeclared`).  Such a run does not come to its end, and starts no asynchronous validator.

* `exists_beginRun_eq_error` — the walk of either run ends with an error;
* `evaluateOn_of_asynchronousStep` — what is shown on the way comes from evaluations, which call only
  synchronous validators.
-/

namespace FormValidation

/-- The declarations of a form are no rules, or one of them does not pass its check. -/
inductive Form.Misdeclared (form : Form) : Prop where
  | undiscovered {x : Error} (hrules : form.rules = .error x)
  | refused {rules : List Rule} {r : Rule} {x : Error} (hrules : form.rules = .ok rules)
      (hr : r ∈ rules) (hx : r.checkDeclaration form = .error x)

theorem LocaleTable.isConfiguration_of_current {t : LocaleTable} {x : Error}
    (h : t.current = .error x) : x.isConfiguration = true := by
  unfold current at h
  split at h
  · cases h
    rfl
  · split at h
    · cases h
      rfl
    · cases h

namespace Evaluation

theorem mem_events {evaluation : Evaluation} {event : Event} (h : event ∈ evaluation.events) :
    (∃ call, evaluation.call = some call ∧ event = .called call) ∨
      event = .ofVerdict evaluation.verdict := by
  rcases List.mem_append.1 h with hcalled | hverdict
  · rcases Option.map_eq_some_iff.1 (Option.mem_toList.1 hcalled) with ⟨call, hcall, rfl⟩
    exact .inl ⟨call, hcall, rfl⟩
  · exact .inr (List.mem_singleton.1 hverdict)

end Evaluation

namespace Engine

variable {e : Engine} {l : Locale} {form : Form} {requested : Option String} {r : Rule}

/-! ## Steps of the walks -/

/-- Why a rule ends a run: its declaration does not pass the check, or the request asks for the rule and it
cannot be evaluated. -/
inductive Refuses (e : Engine) (form : Form) (requested : Option String) (r : Rule) : Error → Prop where
  | unchecked {x : Error} (hx : r.checkDeclaration form = .error x) : Refuses e form requested r x
  | unevaluable {x : Error} (hdeclared : r.Declared form) (ha : r.isApplicable requested = true)
      (hx : r.Unevaluable e.validators form x) : Refuses e form requested r x

theorem Refuses.isOfRule {x : Error} (h : e.Refuses form requested r x) : x.isOfRule = true := by
  cases h with
  | unchecked hx => exact Error.isOfRule_of_isOfLack (Rule.lacksOnly_checkDeclaration form r x hx)
  | unevaluable _ _ hx => exact hx.isOfRule

theorem failsOnly_synchronousStep :
    FailsOnly (e.Refuses form requested r) (e.synchronousStep l form requested r) := by
  refine FailsOnly.bind (fun x hx => .unchecked hx) fun control hc => ?_
  rcases Rule.checkDeclaration_eq_ok_iff.1 hc with ⟨hdeclared, rfl⟩
  refine .ite (fun ha => ?_) (fun _ => .ok _)
  have hevaluate : FailsOnly (e.Refuses form requested r) (r.evaluateOn l e.validators form r.control) :=
    hdeclared.failsOnly_evaluateOn.imp fun x hx => .unevaluable hdeclared ha hx
  exact hevaluate.bind fun _ _ => .ok _

/-- A declaration that does not pass its check is refused, whether or not the rule is asked for. -/
theorem synchronousStep_of_checkDeclaration {x : Error} (h : r.checkDeclaration form = .error x) :
    e.synchronousStep l form requested r = .error x := by
  rw [synchronousStep, h]
  rfl

theorem asynchronousStep_of_checkDeclaration {x : Error} (h : r.checkDeclaration form = .error x) :
    e.asynchronousStep l form requested r = .error x := by
  rw [asynchronousStep, h]
  rfl

theorem evaluateOn_of_synchronousStep {evaluation : Evaluation}
    (h : e.synchronousStep l form requested r = .ok (.evaluated evaluation)) :
    r.evaluateOn l e.validators form r.control = .ok evaluation := by
  rcases bind_eq_ok.1 h with ⟨control, hc, h⟩
  rcases Rule.checkDeclaration_eq_ok hc with rfl
  by_cases ha : r.isApplicable requested = true
  · rw [if_pos ha] at h
    rcases bind_eq_ok.1 h with ⟨evaluation', hevaluation, h⟩
    cases h
    exact hevaluation
  · rw [if_neg ha] at h
    cases h

/-- The rules that an asynchronous run does not defer are evaluated at once. -/
theorem evaluateOn_of_asynchronousStep {evaluation : Evaluation}
    (h : e.asynchronousStep l form requested r = .ok (.evaluated evaluation)) :
    r.evaluateOn l e.validators form r.control = .ok evaluation := by
  by_cases hd : e.Defers requested r
  · rcases hd with ⟨ha, hk, name, start, hv⟩
    rcases bind_eq_ok.1 h with ⟨control, hc, -⟩
    rcases Rule.checkDeclaration_eq_ok hc with rfl
    rw [asynchronousStep_of_defers hc ha hk hv] at h
    cases hvalue : r.value? form <;> simp [hvalue, Except.map] at h
  · rw [asynchronousStep_of_not_defers hd] at h
    exact evaluateOn_of_synchronousStep h

/-- A run that waits for asynchronous validators refuses rules for the same reasons, but not for naming such a
validator. -/
theorem failsOnly_asynchronousStep :
    FailsOnly (fun x => e.Refuses form requested r x ∧ ∀ name, x ≠ .asynchronousInSynchronousRun name)
      (e.asynchronousStep l form requested r) := by
  intro x hx
  by_cases hd : e.Defers requested r
  · rcases hd with ⟨ha, hk, name, start, hv⟩
    cases hc : r.checkDeclaration form with
    | error x' =>
        obtain rfl : x' = x := by simpa [asynchronousStep_of_checkDeclaration hc] using hx
        have hlack := Rule.lacksOnly_checkDeclaration form r x' hc
        refine ⟨.unchecked hc, ?_⟩
        rintro name rfl
        cases hlack
    | ok control =>
        rcases Rule.checkDeclaration_eq_ok_iff.1 hc with ⟨hdeclared, rfl⟩
        rw [asynchronousStep_of_defers hc ha hk hv] at hx
        -- The rule is deferred unless its control cannot be read.
        have hvalue : r.value? form = .error x := by
          cases hvalue : r.value? form <;> simp_all [Except.map]
        have hunreadable := hdeclared.failsOnly_value? x hvalue
        refine ⟨.unevaluable hdeclared ha (.unreadable hunreadable), ?_⟩
        rintro name rfl
        cases hunreadable
  · rw [asynchronousStep_of_not_defers hd] at hx
    have hrefuses := failsOnly_synchronousStep x hx
    refine ⟨hrefuses, ?_⟩
    rintro name rfl
    cases hrefuses with
    | unchecked hc => cases Rule.lacksOnly_checkDeclaration form r _ hc
    | unevaluable _ ha hunevaluable =>
        cases hunevaluable with
        | unreadable h => cases h
        | @asynchronous _ start hk hname hget =>
            -- A rule that names such a validator would have been deferred.
            exact hd ⟨ha, hk, name, start, by simp [Rule.validator, hname, hget]⟩

/-! ## Walks -/

/-- The walk of a run on a misdeclared form ends with an error of what was declared or configured.  Before
that it shows its beginning and what rules come to that are evaluated at once. -/
theorem exists_beginRun_eq_error (step : Locale → Rule → StepResult)
    (hstep : ∀ l r, RefusesOnly (step l r))
    (hcheck : ∀ l r x, r.checkDeclaration form = .error x → step l r = .error x)
    (h : form.Misdeclared) (e : Engine) (requested : Option String) :
    ∃ events x, beginRun step e form requested = (events, .error x) ∧ x.isConfiguration = true ∧
      ∀ event ∈ events, event = .began requested ∨
        ∃ l r evaluation, step l r = .ok (.evaluated evaluation) ∧ event ∈ evaluation.events := by
  cases hl : e.locales.current with
  | error x =>
      refine ⟨[], x, by simp [beginRun, hl], LocaleTable.isConfiguration_of_current hl, ?_⟩
      simp
  | ok l =>
      rcases beginRun_cases step hl form requested with
        ⟨x, hrules, hrun⟩ | ⟨done, r, rest, x, hrules, hx, hrun⟩ | ⟨rules, hrules, hnone, -⟩
      · have hrule := Rule.refusesOnly_rules form x hrules
        exact ⟨_, x, hrun, Error.isConfiguration_of_isOfRule hrule, by simp⟩
      · refine ⟨_, x, hrun, Error.isConfiguration_of_isOfRule (hstep l r x hx), ?_⟩
        intro event hevent
        rcases List.mem_cons.1 hevent with rfl | hevent
        · exact .inl rfl
        · rcases List.mem_flatMap.1 hevent with ⟨r', -, hevent⟩
          rcases StepResult.evaluated_of_mem_events hevent with ⟨evaluation, hevaluation, hmem⟩
          exact .inr ⟨l, r', evaluation, hevaluation, hmem⟩
      · -- No rule is refused, so the form is not misdeclared.
        cases h with
        | undiscovered hrules' => simp [hrules] at hrules'
        | refused hrules' hr hx =>
            obtain rfl : rules = _ := Except.ok.inj (hrules.symm.trans hrules')
            have herror := StepResult.error?_eq_some_iff.2 (hcheck l _ _ hx)
            rw [hnone _ hr] at herror
            cases herror

/-! ## Runs -/

/-- What a run shows before it ends with an error does not tell of its end. -/
theorem ended_not_mem {step : Locale → Rule → StepResult} {events : List Event}
    (h : ∀ event ∈ events, event = .began requested ∨
      ∃ l r evaluation, step l r = .ok (.evaluated evaluation) ∧ event ∈ evaluation.events)
    (outcome : RunOutcome) : .ended outcome ∉ events := by
  intro hmem
  rcases h _ hmem with hbegan | ⟨l, r, evaluation, -, hevent⟩
  · cases hbegan
  · rcases Evaluation.mem_events hevent with ⟨call, -, hcalled⟩ | hverdict
    · cases hcalled
    · cases hverdict

theorem validate_of_misdeclared (h : form.Misdeclared) (e : Engine) (requested : Option String) :
    ∃ events x, e.validate form requested = (events, .error x) ∧ x.isConfiguration = true ∧
      ∀ outcome, .ended outcome ∉ events := by
  rcases exists_beginRun_eq_error (fun l => e.synchronousStep l form requested)
    (fun _ _ x hx => (failsOnly_synchronousStep x hx).isOfRule)
    (fun _ _ _ => synchronousStep_of_checkDeclaration) h e requested with ⟨events, x, hrun, hx, hevents⟩
  exact ⟨events, x, by rw [validate, hrun], hx, ended_not_mem hevents⟩

theorem validateAsync_of_misdeclared (h : form.Misdeclared) (e : Engine) (requested : Option String)
    (patience : Option Nat) :
    ∃ events x, e.validateAsync form requested patience = (events, .failed x) ∧
      x.isConfiguration = true ∧ (∀ outcome, .ended outcome ∉ events) ∧
        ∀ call, .called call ∈ events →
          ∃ decide, e.validators.get? call.name = some (.synchronous decide) := by
  rcases exists_beginRun_eq_error (fun l => e.asynchronousStep l form requested)
    (fun _ _ x hx => (failsOnly_asynchronousStep x hx).1.isOfRule)
    (fun _ _ _ => asynchronousStep_of_checkDeclaration) h e requested with ⟨events, x, hrun, hx, hevents⟩
  refine ⟨events, x, by rw [validateAsync, hrun], hx, ended_not_mem hevents, ?_⟩
  intro call hcall
  rcases hevents _ hcall with hbegan | ⟨l, r, evaluation, hstep, hevent⟩
  · cases hbegan
  · rcases Evaluation.mem_events hevent with ⟨call', hcall', hcalled⟩ | hverdict
    · cases hcalled
      exact Rule.synchronous_of_evaluateOn (evaluateOn_of_asynchronousStep hstep) hcall'
    · cases hverdict

/-- A run on a misdeclared form ends with an error of what was declared or configured, without coming to its
end; an asynchronous run starts no asynchronous validator then.  So a run that comes to its end, under any
request, has found all declarations in order. -/
theorem fails_of_misdeclared (e : Engine) (form : Form) (requested : Option String)
    (patience : Option Nat) :
    (form.Misdeclared →
      (∃ x, (e.validate form requested).2 = .error x ∧ x.isConfiguration = true) ∧
      (∃ x, (e.validateAsync form requested patience).2 = .failed x ∧ x.isConfiguration = true) ∧
      (∀ outcome, .ended outcome ∉ (e.validate form requested).1 ∧
        .ended outcome ∉ (e.validateAsync form requested patience).1) ∧
      ∀ call, .called call ∈ (e.validateAsync form requested patience).1 →
        ∃ decide, e.validators.get? call.name = some (.synchronous decide)) ∧
    ∀ outcome, ((e.validate form requested).2 = .ok outcome ∨
        (e.validateAsync form requested patience).2 = .finished outcome) →
      ∃ rules, form.rules = .ok rules ∧
        ∀ r ∈ rules, ∃ control, r.checkDeclaration form = .ok control := by
  refine ⟨?_, ?_⟩
  · intro h
    rcases validate_of_misdeclared h e requested with ⟨events, x, hrun, hx, hended⟩
    rcases validateAsync_of_misdeclared h e requested patience with
      ⟨events', x', hrun', hx', hended', hcalled⟩
    rw [hrun, hrun']
    exact ⟨⟨x, rfl, hx⟩, ⟨x', rfl, hx'⟩, fun outcome => ⟨hended outcome, hended' outcome⟩,
      hcalled⟩
  · intro outcome houtcome
    -- Neither run comes to its end on a misdeclared form.
    have hdeclared : ¬form.Misdeclared := by
      intro h
      rcases validate_of_misdeclared h e requested with ⟨events, x, hrun, -⟩
      rcases validateAsync_of_misdeclared h e requested patience with ⟨events', x', hrun', -⟩
      rw [hrun, hrun'] at houtcome
      rcases houtcome with houtcome | houtcome <;> cases houtcome
    cases hrules : form.rules with
    | error x => exact absurd (.undiscovered hrules) hdeclared
    | ok rules =>
        refine ⟨rules, rfl, ?_⟩
        intro r hr
        cases hcheck : r.checkDeclaration form with
        | error x => exact absurd (.refused hrules hr hcheck) hdeclared
        | ok control => exact ⟨control, rfl⟩

/-- A form of which the last rule, which no request asks for, compares with a control that it does not
have. -/
def strayForm : Form where
  controls := [⟨"age", .textarea "17"⟩]
  validators :=
    [.ofList [("validate", "custom"), ("function", "slow")],
      .ofList [("validate", "int"), ("control", "age"), ("message", "too young"), ("enabled", "false"),
        ("operator", "lessthan"), ("comparecontrol", "limit")]]

theorem fails_of_misdeclared_stray :
    let e : Engine := { validators := .ofList [("slow", .asynchronous fun _ => .never)] }
    let mended : Form := strayForm.addControl "limit" (.textarea "18")
    strayForm.Misdeclared ∧
      (∃ x, (e.validateAsync strayForm (some "main") none).2 = .failed x ∧ x.isConfiguration = true) ∧
      e.validateAsync strayForm none none = ([.began none], .failed (.controlNotFound "limit")) ∧
      (e.validate mended (some "main")).2 = .ok ⟨true, []⟩ ∧
        ∃ rules, mended.rules = .ok rules ∧
          ∀ r ∈ rules, ∃ control, r.checkDeclaration mended = .ok control := by
  intro e mended
  let slow : Rule := { kind := .custom, function := some "slow" }
  let young : Rule :=
    { kind := .int, control := some "age", message := some "too young", enabled := false,
      comparison := some (.withControl .lessThan "limit") }
  have hrules : strayForm.rules = .ok [slow, young] := by decide +kernel
  have hyoung : young.checkDeclaration strayForm = .error (.controlNotFound "limit") := by
    decide +kernel
  have hstray : strayForm.Misdeclared := .refused hrules (by simp) hyoung
  have hmended : (e.validate mended (some "main")).2 = .ok ⟨true, []⟩ := by decide +kernel
  exact ⟨hstray, ((fails_of_misdeclared e strayForm (some "main") none).1 hstray).2.1,
    by decide +kernel, hmended,
    (fails_of_misdeclared e mended (some "main") none).2 _ (.inl hmended)⟩

end Engine
end FormValidation
