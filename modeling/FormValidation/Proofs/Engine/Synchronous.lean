import FormValidation.Engine.Run
import FormValidation.Proofs.Engine.Configured
import FormValidation.Proofs.Engine.Scan
import FormValidation.Proofs.Rule.Evaluation

/-!
# The trace of a synchronous run

`Engine.SynchronousTrace` says, without a walk or an accumulation, what a synchronous run shows: which
events it sends and which validators it calls, in which order, and how it ends.  Each rule contributes
what it comes to on its own (`Engine.ruleEvents`, `Engine.verdict?`), up to the first rule that is
refused (`Engine.refusal?`).  The run of an engine with an active locale is exactly that trace
(`validate_eq_iff_trace`).
-/

namespace FormValidation
namespace Engine

variable {e : Engine} {l : Locale} {form : Form} {requested : Option String}

/-! ## Rules on their own -/

/-- The error that a rule ends a run with: one of its declaration, whether or not the request asks for
the rule, or one of its evaluation, if the request does. -/
def refusal? (e : Engine) (l : Locale) (form : Form) (requested : Option String) (r : Rule) :
    Option Error :=
  match r.checkDeclaration form with
  | .error x => some x
  | .ok _ =>
      if r.isApplicable requested then
        match r.evaluate l e.validators form with
        | .error x => some x
        | .ok _ => none
      else none

/-- The verdict about a rule that the request asks for. -/
def verdict? (e : Engine) (l : Locale) (form : Form) (requested : Option String) (r : Rule) :
    Option Verdict :=
  if r.isApplicable requested then
    match r.evaluate l e.validators form with
    | .error _ => none
    | .ok evaluation => some evaluation.verdict
  else none

/-- The events of a rule: a custom rule has its validator called, and the verdict about the control that
the rule names is sent. -/
def ruleEvents (e : Engine) (l : Locale) (form : Form) (requested : Option String) (r : Rule) :
    List Event :=
  match e.verdict? l form requested r with
  | none => []
  | some v => (r.call? form).toList.map .called ++ [.validated r.control v.passed]

/-! ## Traces -/

/-- What a rule that is not refused shows. -/
inductive RuleTrace (e : Engine) (l : Locale) (form : Form) (requested : Option String) (r : Rule) :
    List Event → Prop where
  /-- The request leaves the rule out. -/
  | leftOut (ha : r.isApplicable requested = false) : RuleTrace e l form requested r []
  /-- The rule is checked, without a validator. -/
  | checked {v : Verdict} (ha : r.isApplicable requested = true) (hk : r.kind ≠ .custom)
      (hv : r.evaluate l e.validators form = .ok ⟨v, none⟩) :
      RuleTrace e l form requested r [.validated r.control v.passed]
  /-- The validator that the rule names is called with the value of its control. -/
  | delegated {v : Verdict} {name : String} {value : Option String}
      (ha : r.isApplicable requested = true) (hk : r.kind = .custom)
      (hname : r.function = some name) (hvalue : r.value? form = .ok value)
      (hv : r.evaluate l e.validators form = .ok ⟨v, some ⟨name, value⟩⟩) :
      RuleTrace e l form requested r [.called ⟨name, value⟩, .validated r.control v.passed]

/-- What a synchronous run under the active locale `l` shows, and how it ends. -/
inductive SynchronousTrace (e : Engine) (l : Locale) (form : Form) (requested : Option String) :
    List Event → Except Error RunOutcome → Prop where
  /-- The declarations are no rules. -/
  | undiscovered {x : Error} (hrules : form.rules = .error x) :
      SynchronousTrace e l form requested [.began requested] (.error x)
  /-- The rule at position `k` is the first one that is refused. -/
  | refused {rules : List Rule} {k : Nat} {r : Rule} {x : Error} (hrules : form.rules = .ok rules)
      (hr : rules[k]? = some r) (hx : e.refusal? l form requested r = some x)
      (hleast : ∀ r' ∈ rules.take k, e.refusal? l form requested r' = none) :
      SynchronousTrace e l form requested
        (.began requested :: (rules.take k).flatMap (e.ruleEvents l form requested)) (.error x)
  /-- No rule is refused. -/
  | finished {rules : List Rule} {outcome : RunOutcome} (hrules : form.rules = .ok rules)
      (hnone : ∀ r ∈ rules, e.refusal? l form requested r = none)
      (houtcome : outcome = .ofVerdicts (rules.filterMap (e.verdict? l form requested))) :
      SynchronousTrace e l form requested
        (.began requested :: rules.flatMap (e.ruleEvents l form requested) ++ [.ended outcome])
        (.ok outcome)

/-! ## Steps of the walk -/

theorem error?_synchronousStep (r : Rule) :
    StepResult.error? (e.synchronousStep l form requested r) = e.refusal? l form requested r := by
  unfold synchronousStep refusal?
  cases hc : r.checkDeclaration form with
  | error x => rfl
  | ok control =>
      by_cases ha : r.isApplicable requested = true
      · -- Evaluating the rule checks the declaration once more, which has just passed.
        rw [Rule.evaluate_of_checkDeclaration hc, Rule.checkDeclaration_eq_ok hc]
        cases hev : r.evaluateOn l e.validators form r.control <;>
          simp [ha, hev, evaluateNow, bind, Except.bind, pure, Except.pure, StepResult.error?]
      · simp [ha, bind, Except.bind, pure, Except.pure, StepResult.error?]

theorem events_of_evaluateOn {r : Rule} {evaluation : Evaluation}
    (h : r.evaluateOn l e.validators form r.control = .ok evaluation) :
    evaluation.events = (r.call? form).toList.map .called ++
      [.validated r.control evaluation.verdict.passed] := by
  rcases Rule.evaluateOn_eq_ok h with ⟨hcontrol, hcall⟩
  rw [Evaluation.events, hcall, Event.ofVerdict, hcontrol]
  cases r.call? form <;> rfl

/-- A rule that is not refused is skipped or evaluated, as the request says. -/
theorem synchronousStep_of_refusal?_eq_none {r : Rule}
    (h : e.refusal? l form requested r = none) :
    (r.isApplicable requested = false ∧
        e.synchronousStep l form requested r = .ok .skipped) ∨
      (r.isApplicable requested = true ∧ ∃ evaluation,
        r.evaluate l e.validators form = .ok evaluation ∧
          e.synchronousStep l form requested r = .ok (.evaluated evaluation) ∧
            evaluation.events = (r.call? form).toList.map .called ++
              [.validated r.control evaluation.verdict.passed]) := by
  unfold refusal? at h
  unfold synchronousStep
  cases hc : r.checkDeclaration form with
  | error x => simp [hc] at h
  | ok control =>
      rcases Rule.checkDeclaration_eq_ok hc with rfl
      by_cases ha : r.isApplicable requested = true
      · have heval : r.evaluate l e.validators form = r.evaluateOn l e.validators form r.control :=
          Rule.evaluate_of_checkDeclaration hc
        cases hev : r.evaluateOn l e.validators form r.control with
        | error x => simp [hc, ha, heval, hev] at h
        | ok evaluation =>
            refine .inr ⟨ha, evaluation, by rw [heval, hev], ?_, events_of_evaluateOn hev⟩
            simp [ha, hev, evaluateNow, bind, Except.bind, pure, Except.pure]
      · exact .inl ⟨by simpa using ha, by simp [ha, bind, Except.bind, pure, Except.pure]⟩

theorem events_synchronousStep {r : Rule} (h : e.refusal? l form requested r = none) :
    StepResult.events (e.synchronousStep l form requested r) = e.ruleEvents l form requested r := by
  rcases synchronousStep_of_refusal?_eq_none h with ⟨ha, hs⟩ | ⟨ha, evaluation, hev, hs, hevents⟩
  · simp [hs, ha, StepResult.events, ruleEvents, verdict?]
  · simp [hs, ha, hev, hevents, StepResult.events, ruleEvents, verdict?]

theorem verdictAt?_synchronousStep {r : Rule} (h : e.refusal? l form requested r = none)
    (index : Nat) :
    StepResult.verdictAt? (e.synchronousStep l form requested r) index =
      (e.verdict? l form requested r).map fun v => (index, v) := by
  rcases synchronousStep_of_refusal?_eq_none h with ⟨ha, hs⟩ | ⟨ha, evaluation, hev, hs, -⟩
  · simp [hs, ha, StepResult.verdictAt?, verdict?]
  · simp [hs, ha, hev, StepResult.verdictAt?, verdict?]

theorem map_snd_entriesFrom_synchronousStep {rules : List Rule}
    (h : ∀ r ∈ rules, e.refusal? l form requested r = none) (index : Nat) :
    (entriesFrom (e.synchronousStep l form requested) index rules).map Prod.snd =
      rules.filterMap (e.verdict? l form requested) := by
  induction rules generalizing index with
  | nil => rfl
  | cons r rules ih =>
      have hrest := ih (fun r hr => h r (List.mem_cons_of_mem _ hr)) (index + 1)
      rw [entriesFrom_cons, verdictAt?_synchronousStep (h r List.mem_cons_self), List.map_append, hrest]
      cases hv : e.verdict? l form requested r <;> simp [hv]

theorem ruleTrace_ruleEvents {r : Rule} (h : e.refusal? l form requested r = none) :
    e.RuleTrace l form requested r (e.ruleEvents l form requested r) := by
  rw [← events_synchronousStep h]
  rcases synchronousStep_of_refusal?_eq_none h with ⟨ha, hs⟩ | ⟨ha, evaluation, hev, hs, hevents⟩
  · rw [hs]
    exact .leftOut ha
  · rw [hs]
    show e.RuleTrace l form requested r evaluation.events
    rcases evaluation with ⟨v, call⟩
    -- What was called is the call of the rule, and only a custom rule has one.
    rcases bind_eq_ok.1 hev with ⟨control, hc, heval⟩
    rcases Rule.checkDeclaration_eq_ok hc with rfl
    obtain ⟨-, rfl : call = _⟩ := Rule.evaluateOn_eq_ok heval
    rw [hevents]
    by_cases hk : r.kind = .custom
    · rw [Rule.evaluateOn, if_pos hk] at heval
      rcases Rule.delegate_eq_ok heval with ⟨name, decide, value, hname, -, hvalue, -⟩
      have hcall : r.call? form = some ⟨name, value⟩ := by
        simp [Rule.call?, Rule.value?, hk, hname, hvalue]
      rw [hcall] at hev ⊢
      exact .delegated ha hk hname hvalue hev
    · have hcall : r.call? form = none := by simp [Rule.call?, hk]
      rw [hcall] at hev ⊢
      exact .checked ha hk hev

/-! ## Runs -/

theorem beginRun_eq (step : Locale → Rule → StepResult) {rules : List Rule}
    (hl : e.locales.current = .ok l) (hrules : form.rules = .ok rules) :
    beginRun step e form requested =
      (.began requested :: (scan (step l) 0 (({} : Accumulation).begin) rules).1,
        (scan (step l) 0 (({} : Accumulation).begin) rules).2) := by
  simp [beginRun, hl, hrules]

/-- Where a locale is active, the walk of a run meets declarations that are no rules, or a first rule that is
refused, or it comes to the end of the rules. -/
theorem beginRun_cases (step : Locale → Rule → StepResult) (hl : e.locales.current = .ok l) (form : Form)
    (requested : Option String) :
    (∃ x, form.rules = .error x ∧ beginRun step e form requested = ([.began requested], .error x)) ∨
      (∃ done r rest x, form.rules = .ok (done ++ r :: rest) ∧ step l r = .error x ∧
        beginRun step e form requested =
          (.began requested :: done.flatMap fun r => (step l r).events, .error x)) ∨
      ∃ rules, form.rules = .ok rules ∧ (∀ r ∈ rules, (step l r).error? = none) ∧
        beginRun step e form requested =
          (.began requested :: rules.flatMap fun r => (step l r).events,
            .ok ((({} : Accumulation).begin).recordAll (entriesFrom (step l) 0 rules),
              deferredFrom (step l) 0 rules)) := by
  cases hrules : form.rules with
  | error x => exact .inl ⟨x, rfl, by simp [beginRun, hl, hrules]⟩
  | ok rules =>
      rw [beginRun_eq step hl hrules]
      rcases forall_or_exists_first (fun r => (step l r).error? = none) rules with
        hnone | ⟨done, r, rest, rfl, hdone, hr⟩
      · exact .inr (.inr ⟨rules, rfl, hnone, by rw [scan_eq_of_ok hnone]⟩)
      · rcases Option.ne_none_iff_exists'.1 hr with ⟨x, hx⟩
        have hstep : step l r = .error x := StepResult.error?_eq_some_iff.1 hx
        exact .inr (.inl ⟨done, r, rest, x, rfl, hstep, by rw [scan_eq_of_error hdone hx]⟩)

/-- Every trace is the run. -/
theorem validate_eq_of_trace (hl : e.locales.current = .ok l) {events : List Event}
    {result : Except Error RunOutcome}
    (h : e.SynchronousTrace l form requested events result) :
    e.validate form requested = (events, result) := by
  cases h with
  | undiscovered hrules => simp [validate, beginRun, hl, hrules]
  | @refused rules k r x hrules hr hx hleast =>
      -- The walk comes as far as the refused rule, which splits the declarations.
      have hsplit : rules = rules.take k ++ r :: rules.drop (k + 1) := by
        rcases List.getElem?_eq_some_iff.1 hr with ⟨hk, rfl⟩
        rw [List.getElem_cons_drop, List.take_append_drop]
      have hscan : scan (e.synchronousStep l form requested) 0 (({} : Accumulation).begin)
          (rules.take k ++ r :: rules.drop (k + 1)) = _ :=
        scan_eq_of_error (fun r' hr' => (error?_synchronousStep r').trans (hleast r' hr'))
          ((error?_synchronousStep r).trans hx) 0 _
      rw [← hsplit] at hscan
      have hevents := List.flatMap_congr fun r' hr' => events_synchronousStep (hleast r' hr')
      rw [validate, beginRun_eq _ hl hrules, hscan, hevents]
  | @finished rules outcome hrules hnone houtcome =>
      have hscan : scan (e.synchronousStep l form requested) 0 (({} : Accumulation).begin) rules = _ :=
        scan_eq_of_ok (fun r hr => (error?_synchronousStep r).trans (hnone r hr)) 0 _
      have hevents := List.flatMap_congr fun r hr => events_synchronousStep (hnone r hr)
      -- The verdicts are recorded in the order of the declarations.
      have hout := Accumulation.outcome_recordAll (List.Perm.refl _)
        (pairwise_entriesFrom (e.synchronousStep l form requested) 0 rules)
      rw [map_snd_entriesFrom_synchronousStep hnone, ← houtcome] at hout
      rw [validate, beginRun_eq _ hl hrules, hscan, hevents]
      simp [hout]

theorem exists_trace (e : Engine) (l : Locale) (form : Form) (requested : Option String) :
    ∃ events result, e.SynchronousTrace l form requested events result := by
  cases hrules : form.rules with
  | error x => exact ⟨_, _, .undiscovered hrules⟩
  | ok rules =>
      -- The first refusal, if there is one, says how the run ends.
      cases hfirst : rules.findSome? (e.refusal? l form requested) with
      | none => exact ⟨_, _, .finished hrules (List.findSome?_eq_none_iff.1 hfirst) rfl⟩
      | some x =>
          rcases List.findSome?_eq_some_iff.1 hfirst with ⟨done, r, rest, rfl, hx, hdone⟩
          have hr : (done ++ r :: rest)[done.length]? = some r := by simp
          exact ⟨_, _, .refused hrules hr hx (by simpa using hdone)⟩

/-- A synchronous run comes to its end if no rule is refused, with the outcome of all verdicts. -/
theorem validate_eq_ok_iff {outcome : RunOutcome} :
    (e.validate form requested).2 = .ok outcome ↔
      ∃ l rules, e.locales.current = .ok l ∧ form.rules = .ok rules ∧
        (∀ r ∈ rules, e.refusal? l form requested r = none) ∧
          outcome = .ofVerdicts (rules.filterMap (e.verdict? l form requested)) := by
  constructor
  · intro h
    cases hl : e.locales.current with
    | error x => simp [validate, beginRun, hl] at h
    | ok l =>
        rcases exists_trace e l form requested with ⟨events, result, htrace⟩
        rw [validate_eq_of_trace hl htrace] at h
        -- Of the three kinds of traces only one ends with an outcome.
        cases htrace with
        | undiscovered hrules => cases h
        | refused hrules hr hx hleast => cases h
        | finished hrules hnone houtcome =>
            rcases Except.ok.inj h with rfl
            exact ⟨l, _, rfl, hrules, hnone, houtcome⟩
  · rintro ⟨l, rules, hl, hrules, hnone, houtcome⟩
    rw [validate_eq_of_trace hl (.finished hrules hnone houtcome)]

/-- A synchronous run shows exactly its trace: it begins, then sends the events of the rules before the
first refused one, in the order of the declarations, and ends with the outcome of all verdicts if no rule
is refused, else with the error of that rule.  Of the rules, exactly the custom ones that the request
asks for have a validator called, each once. -/
theorem validate_eq_iff_trace {e : Engine} (he : e.Configured) (form : Form)
    (requested : Option String) :
    ∃ l, e.locales.current = .ok l ∧
      (∀ events result, e.validate form requested = (events, result) ↔
        e.SynchronousTrace l form requested events result) ∧
      ∀ r, e.refusal? l form requested r = none →
        e.RuleTrace l form requested r (e.ruleEvents l form requested r) := by
  rcases he.exists_current with ⟨l, hl⟩
  refine ⟨l, hl, ?_, fun r => ruleTrace_ruleEvents⟩
  intro events result
  refine ⟨?_, validate_eq_of_trace hl⟩
  intro h
  -- There is a trace, and every trace is the run.
  rcases exists_trace e l form requested with ⟨events', result', htrace⟩
  have hrun := validate_eq_of_trace hl htrace
  obtain ⟨rfl, rfl⟩ : events' = events ∧ result' = result := by simpa [hrun] using h
  exact htrace

/-- A form whose first rule is left out, whose second one has a validator called, and whose last one is
refused. -/
def mixedForm : Form where
  controls := [⟨"name", .textarea "ada"⟩]
  validators :=
    [.ofList [("validate", "required"), ("control", "name"), ("message", "who?"), ("enabled", "false")],
      .ofList [("validate", "custom"), ("function", "known"), ("control", "name")],
      .ofList [("validate", "custom"), ("function", "missing")]]

theorem validate_eq_iff_trace_mixed :
    ∃ l, SynchronousTrace
      { validators := .ofList [("known", .synchronous fun _ => .refused "unknown name")] } l mixedForm
      none [.began none, .called ⟨"known", some "ada"⟩, .validated (some "name") false]
      (.error (.unregisteredValidator "missing")) := by
  obtain ⟨l, -, htrace, -⟩ := validate_eq_iff_trace
    (.setValidators .initial (.ofList [("known", .synchronous fun _ => .refused "unknown name")]))
    mixedForm none
  exact ⟨l, (htrace _ _).1 (by decide +kernel)⟩

end Engine
end FormValidation
