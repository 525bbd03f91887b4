import FormValidation.Proofs.Engine.Configured
import FormValidation.Proofs.Engine.Congruence
import FormValidation.Proofs.Value.LocaleIndependence

/-!
# Runs under different locales

A rule consults the locale only to read decimal numbers, and dates that the international format does not match.
On a form without such (`Form.LocaleFree`) engines that differ in nothing but their locales go through a run with
the same events and the same end (`Engine.runs_eq_of_localeFree`), synchronous or not.
-/

namespace FormValidation

/-! ## Rules -/

namespace Rule

/-- The texts that a rule compares on a form: what its control reads as, the text or what the control reads as that
it compares that with, and the upper bound of a range. -/
inductive Operand (form : Form) (r : Rule) : String → Prop where
  | value {id text : String} (hcontrol : r.control = some id) (hread : form.read id = .ok text) :
      Operand form r text
  | literal {c : Comparison} {text : String} (hc : r.comparison = some c)
      (hoperand : c.operand = some (.value text)) : Operand form r text
  | compared {c : Comparison} {id text : String} (hc : r.comparison = some c)
      (hoperand : c.operand = some (.control id)) (hread : form.read id = .ok text) : Operand form r text
  | bound {c : Comparison} {text : String} (hc : r.comparison = some c) (hrange : c.operator = .range)
      (hmax : c.max = some text) : Operand form r text

/-- The rule is not about a decimal number, and if it is about dates, its operands start with international ones,
but for those that are empty. -/
structure LocaleFree (form : Form) (r : Rule) : Prop where
  noFloat : r.kind ≠ .float
  international : r.kind = .date → ∀ text, r.Operand form text → text ≠ "" →
    DateFormat.StartsInternational text

variable {form : Form} {r : Rule}

theorem LocaleFree.operand (h : r.LocaleFree form) {kind : ValueKind} (hkind : r.kind.valueKind? = some kind)
    {text : String} (htext : r.Operand form text) : Value.LocaleFree kind text := by
  cases hr : r.kind with
  | int =>
      rw [hr] at hkind
      cases hkind
      exact .int text
  | float => exact absurd hr h.noFloat
  | date =>
      rw [hr] at hkind
      cases hkind
      by_cases hempty : text = ""
      · subst hempty
        exact .empty
      · exact .date (h.international hr text htext hempty)
  | required | regexp | email | custom =>
      rw [hr] at hkind
      cases hkind

theorem operand_of_readValue {text : String} (h : r.readValue form r.control = .ok text) :
    r.Operand form text := by
  unfold readValue at h
  cases hc : r.control with
  | none => simp [hc] at h
  | some id => exact .value hc (by simpa [hc] using h)

theorem operand_of_operandText {c : Comparison} {text : String} (hc : r.comparison = some c)
    (h : r.operandText form c = .ok text) : r.Operand form text := by
  rw [operandText] at h
  cases hoperand : c.operand with
  | none => simp [hoperand] at h
  | some operand =>
      rw [hoperand] at h
      cases operand with
      | value text' =>
          cases h
          exact .literal hc hoperand
      | control id =>
          rcases bind_eq_ok.1 h with ⟨id', hid', hread⟩
          rcases (Form.resolve_eq_ok_iff.1 hid').2 with rfl
          exact .compared hc hoperand hread

/-- Every text that is read as a value is an operand of the rule. -/
theorem matchesKind_congr_locale {kind : ValueKind}
    (h : ∀ text, r.Operand form text → Value.LocaleFree kind text) (l l' : Locale) :
    r.matchesKind l form kind r.control = r.matchesKind l' form kind r.control := by
  unfold matchesKind
  refine bind_congr_of_eq_ok ?_
  intro value hvalue
  have hfree : Value.LocaleFree kind value := h value (operand_of_readValue hvalue)
  cases hc : r.comparison with
  | none =>
      -- Without a comparison it only counts whether the value can be read.
      simp only [Value.read?_congr hfree l l']
  | some c =>
      have hcompare : ∀ operand, r.operandText form c = .ok operand →
          l.compare kind value c.operator operand c.max = l'.compare kind value c.operator operand c.max := by
        intro operand hoperand
        refine Locale.compare_congr hfree (h operand (operand_of_operandText hc hoperand)) ?_ l l'
        intro hrange max hmax
        exact h max (.bound hc hrange hmax)
      have hcomparison : (r.operandText form c >>= fun operand =>
            l.compare kind value c.operator operand c.max >>= fun o => pure o.isPassed) =
          (r.operandText form c >>= fun operand =>
            l'.compare kind value c.operator operand c.max >>= fun o => pure o.isPassed) := by
        refine bind_congr_of_eq_ok ?_
        intro operand hoperand
        rw [hcompare operand hoperand]
      simp only [hcomparison]

theorem passes_congr_locale (h : r.LocaleFree form) (l l' : Locale) :
    r.passes l form r.control = r.passes l' form r.control := by
  unfold passes
  cases hr : r.kind with
  | int | date => exact matchesKind_congr_locale (fun text => h.operand (by rw [hr]; rfl)) l l'
  | float => exact absurd hr h.noFloat
  | required | regexp | email | custom => rfl

/-- Validators decide without a locale. -/
theorem evaluateOn_congr_locale (h : r.LocaleFree form) (registry : Registry) (l l' : Locale) :
    r.evaluateOn l registry form r.control = r.evaluateOn l' registry form r.control := by
  unfold evaluateOn
  rw [passes_congr_locale h l l']

end Rule

/-! ## Runs -/

/-- No rule that is asked for needs a locale. -/
def Form.LocaleFree (form : Form) (requested : Option String) : Prop :=
  ∀ rules, form.rules = .ok rules → ∀ r ∈ rules, r.isApplicable requested = true → r.LocaleFree form

namespace Engine

/-- Where no rule that is asked for is about a decimal number, or about a date that does not start with an
international one, the locales of an engine make no difference to a run. -/
theorem runs_eq_of_localeFree {e e' : Engine} (he : e.Configured) (he' : e'.Configured)
    (hvalidators : e.validators = e'.validators) (htimeLimit : e.timeLimit = e'.timeLimit) {form : Form}
    {requested : Option String} (h : form.LocaleFree requested) :
    e.validate form requested = e'.validate form requested ∧
      ∀ patience, e.validateAsync form requested patience = e'.validateAsync form requested patience := by
  rcases he.exists_current with ⟨l, hl⟩
  rcases he'.exists_current with ⟨l', hl'⟩
  refine runs_congr hvalidators htimeLimit hl hl' rfl ?_
  intro rules hrules r hr
  -- A rule that is not asked for is only checked, which takes no locale.
  exact
    { declaration := rfl
      value := rfl
      evaluation := fun happlicable =>
        Rule.evaluateOn_congr_locale (h rules hrules r hr happlicable) e.validators l l' }

/-- The day of a journey is within the year, and not before the earliest day. -/
def dayRule : Rule where
  kind := .date
  control := some "day"
  message := some "not this year"
  group := some "journey"
  comparison := some ⟨.range, some (.control "earliest"), some "2024-12-31 UTC"⟩

def fareRule : Rule where
  kind := .float
  control := some "fare"
  message := some "no fare"

/-- A form with these rules.  There is no such day, and no earliest one is given. -/
def journeyForm : Form where
  controls := [⟨"day", .input "text" "2024-02-30" false⟩, ⟨"earliest", .textarea ""⟩, ⟨"fare", .textarea "1,5"⟩]
  validators :=
    [.ofList [("validate", "date"), ("control", "day"), ("message", "not this year"),
        ("validationgroup", "journey"), ("operator", "range"), ("comparecontrol", "earliest"),
        ("comparemaxvalue", "2024-12-31 UTC")],
      .ofList [("validate", "float"), ("control", "fare"), ("message", "no fare")]]

def frenchEngine : Engine where
  locales := { LocaleTable.initial with active := some "fr" }

theorem runs_eq_of_localeFree_journey :
    ({} : Engine).setLocale "fr" = .ok frenchEngine ∧ journeyForm.rules = .ok [dayRule, fareRule] ∧
      journeyForm.LocaleFree (some "journey") ∧
      (({} : Engine).validate journeyForm (some "journey")).2 = .ok ⟨false, ["not this year"]⟩ ∧
      (frenchEngine.validate journeyForm (some "journey")).2 = .ok ⟨false, ["not this year"]⟩ := by
  have hfrench : ({} : Engine).setLocale "fr" = .ok frenchEngine := rfl
  have hrules : journeyForm.rules = .ok [dayRule, fareRule] := by decide +kernel
  have hday : DateFormat.StartsInternational "2024-02-30" :=
    DateFormat.startsInternational_iff.2 (by decide +kernel)
  have hmax : DateFormat.StartsInternational "2024-12-31 UTC" :=
    DateFormat.startsInternational_iff.2 (by decide +kernel)
  have hfree : journeyForm.LocaleFree (some "journey") := by
    intro rules hrules' r hr happlicable
    cases hrules.symm.trans hrules'
    rcases List.mem_pair.1 hr with rfl | rfl
    · refine ⟨by decide, ?_⟩
      intro _ text htext hne
      cases htext with
      | value hcontrol hread =>
          cases hcontrol
          cases hread
          exact hday
      | literal hc hoperand =>
          cases hc
          cases hoperand
      | compared hc hoperand hread =>
          cases hc
          cases hoperand
          cases hread
          exact absurd rfl hne
      | bound hc hrange hmax' =>
          cases hc
          cases hmax'
          exact hmax
    · have hnot : fareRule.isApplicable (some "journey") = false := by decide +kernel
      rw [hnot] at happlicable
      cases happlicable
  have hsame := runs_eq_of_localeFree .initial (.setLocale .initial hfrench) rfl rfl hfree
  have hrun : (({} : Engine).validate journeyForm (some "journey")).2 = .ok ⟨false, ["not this year"]⟩ := by
    decide +kernel
  refine ⟨hfrench, hrules, hfree, hrun, ?_⟩
  rw [← hsame.1]
  exact hrun

end Engine
end FormValidation
