import FormValidation.Proofs.Engine.Synchronous
import FormValidation.Proofs.Rule.Groups

/-!
# Runs on some of the groups

A run that is asked for groups comes to the verdicts about the rules that the request selects
(`filterMap_verdict?`).  So what it reports a run without a request reports too, and a request for two groups
brings together what the requests for each of them bring (`validate_restricted`).
-/

namespace FormValidation

/-! ## Outcomes of fewer verdicts -/

namespace RunOutcome

theorem messages_ofVerdicts_sublist {vs ws : List Verdict} (h : vs.Sublist ws) :
    (ofVerdicts vs).messages.Sublist (ofVerdicts ws).messages :=
  h.filterMap Verdict.report

theorem status_ofVerdicts_of_sublist {vs ws : List Verdict} (h : vs.Sublist ws)
    (hws : (ofVerdicts ws).status = true) : (ofVerdicts vs).status = true := by
  have hall : ∀ v ∈ ws, v.passed = true := List.all_eq_true.1 hws
  exact List.all_eq_true.2 fun v hv => hall v (h.subset hv)

end RunOutcome

namespace Engine

variable {e : Engine} {l : Locale} {form : Form} {requested : Option String}

/-! ## Evaluated rules -/

/-- Whether a synchronous run evaluates a rule. -/
def Evaluates (e : Engine) (l : Locale) (form : Form) (requested : Option String) (r : Rule) : Prop :=
  ∃ evaluation, e.synchronousStep l form requested r = .ok (.evaluated evaluation)

/-- The rules that are evaluated are those that the request selects, if none is refused. -/
theorem evaluates_iff {r : Rule} (h : e.refusal? l form requested r = none) :
    e.Evaluates l form requested r ↔ r.isApplicable requested = true := by
  unfold Evaluates
  rcases synchronousStep_of_refusal?_eq_none h with ⟨ha, hs⟩ | ⟨ha, evaluation, -, hs, -⟩
  · simp [ha, hs]
  · simp [ha, hs]

/-- A rule that is not refused without a request is not refused under any. -/
theorem refusal?_eq_none_of_none {r : Rule} (h : e.refusal? l form none r = none)
    (requested : Option String) : e.refusal? l form requested r = none := by
  unfold refusal? at h ⊢
  cases hc : r.checkDeclaration form with
  | error x => simp [hc] at h
  | ok control =>
      by_cases ha : r.isApplicable requested = true
      · have hnone : r.isApplicable none = true := Rule.isApplicable_none_of_isApplicable ha
        simpa [hc, ha, hnone] using h
      · simp [ha]

/-- A request decides whether there is a verdict about a rule, but not which. -/
theorem verdict?_eq_ite (r : Rule) :
    e.verdict? l form requested r =
      if r.isApplicable requested then e.verdict? l form none r else none := by
  by_cases ha : r.isApplicable requested = true
  · have hnone : r.isApplicable none = true := Rule.isApplicable_none_of_isApplicable ha
    simp [verdict?, ha, hnone]
  · simp [verdict?, ha]

/-- The verdicts of a run are those about the rules that the request selects. -/
theorem filterMap_verdict? (requested : Option String) (rules : List Rule) :
    rules.filterMap (e.verdict? l form requested) =
      (rules.filter (·.isApplicable requested)).filterMap (e.verdict? l form none) := by
  rw [List.filterMap_filter]
  exact List.filterMap_congr fun r _ => verdict?_eq_ite r

/-! ## Requests that select more -/

/-- What a run under a request reports is part of what is reported under a request that selects more. -/
theorem verdicts_sublist {requested requested' : Option String} {rules : List Rule}
    (h : ∀ r : Rule, r.isApplicable requested = true → r.isApplicable requested' = true) :
    (rules.filterMap (e.verdict? l form requested)).Sublist
      (rules.filterMap (e.verdict? l form requested')) := by
  have hselected : (rules.filter (·.isApplicable requested)).Sublist
      (rules.filter (·.isApplicable requested')) :=
    List.monotone_filter_right rules h
  rw [filterMap_verdict? requested, filterMap_verdict? requested']
  exact hselected.filterMap _

/-- A request that selects what two others select brings all that each of them brings. -/
theorem verdicts_sublist_of_or {requested₁ requested₂ requested : Option String} (rules : List Rule)
    (h : ∀ r : Rule, r.isApplicable requested =
      (r.isApplicable requested₁ || r.isApplicable requested₂)) :
    (rules.filterMap (e.verdict? l form requested₁)).Sublist
        (rules.filterMap (e.verdict? l form requested)) ∧
      (rules.filterMap (e.verdict? l form requested₂)).Sublist
        (rules.filterMap (e.verdict? l form requested)) := by
  have hleft : ∀ r : Rule, r.isApplicable requested₁ = true → r.isApplicable requested = true := by
    intro r hr
    rw [h, hr, Bool.true_or]
  have hright : ∀ r : Rule, r.isApplicable requested₂ = true → r.isApplicable requested = true := by
    intro r hr
    rw [h, hr, Bool.or_true]
  exact ⟨verdicts_sublist hleft, verdicts_sublist hright⟩

/-- A run under a request that selects what two others select passes if the runs under these pass. -/
theorem status_ofVerdicts_or {requested₁ requested₂ requested : Option String} (rules : List Rule)
    (h : ∀ r : Rule, r.isApplicable requested =
      (r.isApplicable requested₁ || r.isApplicable requested₂)) :
    (RunOutcome.ofVerdicts (rules.filterMap (e.verdict? l form requested))).status =
      ((RunOutcome.ofVerdicts (rules.filterMap (e.verdict? l form requested₁))).status &&
        (RunOutcome.ofVerdicts (rules.filterMap (e.verdict? l form requested₂))).status) := by
  rw [Bool.eq_iff_iff, Bool.and_eq_true]
  constructor
  · intro hstatus
    exact ⟨RunOutcome.status_ofVerdicts_of_sublist (verdicts_sublist_of_or rules h).1 hstatus,
      RunOutcome.status_ofVerdicts_of_sublist (verdicts_sublist_of_or rules h).2 hstatus⟩
  · rintro ⟨hstatus₁, hstatus₂⟩
    refine List.all_eq_true.2 ?_
    intro v hv
    rcases List.mem_filterMap.1 hv with ⟨r, hr, hverdict⟩
    rw [verdict?_eq_ite] at hverdict
    -- The rule is selected by one of the two requests, with the same verdict.
    have hmem : ∀ requested', r.isApplicable requested' = true →
        v ∈ rules.filterMap (e.verdict? l form requested') := by
      intro requested' ha'
      refine List.mem_filterMap.2 ⟨r, hr, ?_⟩
      rw [verdict?_eq_ite, if_pos ha']
      split at hverdict
      · exact hverdict
      · cases hverdict
    cases ha : r.isApplicable requested with
    | false => simp [ha] at hverdict
    | true =>
        rw [h, Bool.or_eq_true] at ha
        rcases ha with ha | ha
        · exact List.all_eq_true.1 hstatus₁ v (hmem requested₁ ha)
        · exact List.all_eq_true.1 hstatus₂ v (hmem requested₂ ha)

/-! ## Runs -/

/-- If a run without a request comes to its end, so does a run under any request, with the same verdicts
about fewer rules. -/
theorem validate_of_validate_none {outcome : RunOutcome}
    (h : (e.validate form none).2 = .ok outcome) :
    ∃ l rules, e.locales.current = .ok l ∧ form.rules = .ok rules ∧
      outcome = .ofVerdicts (rules.filterMap (e.verdict? l form none)) ∧
        ∀ requested, (∀ r ∈ rules, e.refusal? l form requested r = none) ∧
          (e.validate form requested).2 =
            .ok (.ofVerdicts (rules.filterMap (e.verdict? l form requested))) := by
  rcases validate_eq_ok_iff.1 h with ⟨l, rules, hl, hrules, hnone, houtcome⟩
  refine ⟨l, rules, hl, hrules, houtcome, ?_⟩
  intro requested
  have hnone' : ∀ r ∈ rules, e.refusal? l form requested r = none :=
    fun r hr => refusal?_eq_none_of_none (hnone r hr) requested
  exact ⟨hnone', validate_eq_ok_iff.2 ⟨l, rules, hl, hrules, hnone', rfl⟩⟩

/-- If a run without a request comes to its end, a run under a request does too and reports no more.  Under a
request for two groups the rules are evaluated that are evaluated under a request for one of them; the run
passes if the two runs pass, and reports what they report. -/
theorem validate_restricted {e : Engine} {form : Form} {outcome : RunOutcome}
    (h : (e.validate form none).2 = .ok outcome) :
    (∀ g, ∃ outcome', (e.validate form (some g)).2 = .ok outcome' ∧
      outcome'.messages.Sublist outcome.messages ∧
        (outcome.status = true → outcome'.status = true)) ∧
    ∀ g₁ g₂, Text.trim g₁ ≠ "" → Text.trim g₂ ≠ "" →
      ∃ outcome₁ outcome₂ outcome', (e.validate form (some g₁)).2 = .ok outcome₁ ∧
        (e.validate form (some g₂)).2 = .ok outcome₂ ∧
        (e.validate form (some (g₁ ++ "," ++ g₂))).2 = .ok outcome' ∧
        (∃ l rules, e.locales.current = .ok l ∧ form.rules = .ok rules ∧
          ∀ r ∈ rules, e.Evaluates l form (some (g₁ ++ "," ++ g₂)) r ↔
            e.Evaluates l form (some g₁) r ∨ e.Evaluates l form (some g₂) r) ∧
        outcome'.status = (outcome₁.status && outcome₂.status) ∧
        outcome₁.messages.Sublist outcome'.messages ∧
        outcome₂.messages.Sublist outcome'.messages := by
  rcases validate_of_validate_none h with ⟨l, rules, hl, hrules, rfl, hrun⟩
  refine ⟨?_, ?_⟩
  · intro g
    have hsublist : (rules.filterMap (e.verdict? l form (some g))).Sublist
        (rules.filterMap (e.verdict? l form none)) :=
      verdicts_sublist fun r => Rule.isApplicable_none_of_isApplicable
    exact ⟨_, (hrun (some g)).2, RunOutcome.messages_ofVerdicts_sublist hsublist,
      RunOutcome.status_ofVerdicts_of_sublist hsublist⟩
  · intro g₁ g₂ hg₁ hg₂
    have hselects : ∀ r : Rule, r.isApplicable (some (g₁ ++ "," ++ g₂)) =
        (r.isApplicable (some g₁) || r.isApplicable (some g₂)) :=
      Rule.isApplicable_append_comma hg₁ hg₂
    rcases verdicts_sublist_of_or rules hselects with ⟨hleft, hright⟩
    refine ⟨_, _, _, (hrun _).2, (hrun _).2, (hrun _).2, ⟨l, rules, hl, hrules, ?_⟩,
      status_ofVerdicts_or rules hselects, RunOutcome.messages_ofVerdicts_sublist hleft,
      RunOutcome.messages_ofVerdicts_sublist hright⟩
    intro r hr
    rw [evaluates_iff ((hrun _).1 r hr), evaluates_iff ((hrun _).1 r hr),
      evaluates_iff ((hrun _).1 r hr), hselects, Bool.or_eq_true]

/-- A form with a rule of one group, a rule of two groups, and a disabled rule that could not be evaluated. -/
def groupedForm : Form where
  controls := [⟨"name", .textarea ""⟩, ⟨"age", .textarea "old"⟩]
  validators :=
    [.ofList [("validate", "required"), ("control", "name"), ("message", "who?"),
        ("validationgroup", "main")],
      .ofList [("validate", "int"), ("control", "age"), ("message", "how old?"),
        ("validationgroup", "extra, main")],
      .ofList [("validate", "custom"), ("function", "missing"), ("enabled", "false")]]

theorem validate_restricted_grouped :
    let e : Engine := {}
    (e.validate groupedForm none).2 = .ok ⟨false, ["who?", "how old?"]⟩ ∧
      Text.trim "main" ≠ "" ∧ Text.trim " extra" ≠ "" ∧
        ∃ outcome₁ outcome', (e.validate groupedForm (some "main")).2 = .ok outcome₁ ∧
          (e.validate groupedForm (some " extra")).2 = .ok ⟨false, ["how old?"]⟩ ∧
          (e.validate groupedForm (some "main, extra")).2 = .ok outcome' ∧ outcome'.status = false ∧
          outcome₁.messages.Sublist outcome'.messages ∧ ["how old?"].Sublist outcome'.messages := by
  intro e
  have h : (e.validate groupedForm none).2 = .ok ⟨false, ["who?", "how old?"]⟩ := by
    let who : Rule := { Rule.about .required "name" "who?" with group := some "main" }
    let howOld : Rule := { Rule.about .int "age" "how old?" with group := some "extra, main" }
    let disabled : Rule := { kind := .custom, function := some "missing", enabled := false }
    have hrules : groupedForm.rules = .ok [who, howOld, disabled] := by decide +kernel
    exact validate_eq_ok_iff.2 ⟨_, _, rfl, hrules, by decide +kernel, by decide +kernel⟩
  have hreported : (e.validate groupedForm (some " extra")).2 = .ok ⟨false, ["how old?"]⟩ := by
    decide +kernel
  have hmain : Text.trim "main" ≠ "" := by decide +kernel
  have hextra : Text.trim " extra" ≠ "" := by decide +kernel
  rcases (validate_restricted h).2 "main" " extra" hmain hextra with
    ⟨outcome₁, outcome₂, outcome', h₁, h₂, h', -, hstatus, hsublist₁, hsublist₂⟩
  rcases Except.ok.inj (h₂.symm.trans hreported) with rfl
  exact ⟨h, hmain, hextra, outcome₁, outcome', h₁, hreported, h',
    by rw [hstatus, Bool.and_false], hsublist₁, hsublist₂⟩

end Engine
end FormValidation
