import FormValidation.Proofs.Engine.Failure
import FormValidation.Proofs.Engine.Immediate

/-!
# What runs report

A run that comes to its end (`Engine.Finishes`) has a verdict about every rule that the request asks for
(`Engine.Judges`).  It has sent these verdicts, and its outcome is theirs (`Engine.Judged`).  A verdict that
fails is reported by its message; a rule that leaves the decision to no validator always has one
(`reports_of_finishes`).
-/

namespace FormValidation

/-! ## Verdicts -/

namespace Verdict

/-- A verdict that passes has no message. -/
def Discreet (v : Verdict) : Prop :=
  v.passed = true → v.message = none

/-- A verdict that fails has a message. -/
def Explained (v : Verdict) : Prop :=
  v.passed = false → v.message ≠ none

theorem discreet_ofCheck (r : Rule) (passed : Bool) (control : Option String) :
    (ofCheck r passed control).Discreet := by
  intro h
  obtain rfl : passed = true := h
  rfl

theorem discreet_ofDecision (decision : Decision) (control : Option String) :
    (ofDecision decision control).Discreet := by
  intro h
  have hvalid : decision.valid = true := h
  simp [ofDecision, hvalid]

theorem report_isSome (v : Verdict) : v.report.isSome = (!v.passed && v.message.isSome) := by
  unfold report
  cases v.passed <;> rfl

end Verdict

namespace RunOutcome

variable {verdicts : List Verdict}

theorem length_messages_ofVerdicts (verdicts : List Verdict) :
    (ofVerdicts verdicts).messages.length = verdicts.countP fun v => !v.passed && v.message.isSome := by
  simp only [ofVerdicts, List.length_filterMap_eq_countP, Verdict.report_isSome]

theorem length_messages_le (verdicts : List Verdict) :
    (ofVerdicts verdicts).messages.length ≤ verdicts.countP fun v => !v.passed := by
  rw [length_messages_ofVerdicts]
  exact List.countP_mono_left fun v _ h => (Bool.and_eq_true_iff.1 h).1

theorem length_messages_eq (h : ∀ v ∈ verdicts, v.Explained) :
    (ofVerdicts verdicts).messages.length = verdicts.countP fun v => !v.passed := by
  rw [length_messages_ofVerdicts]
  apply List.countP_congr
  intro v hv
  simp only [Bool.and_eq_true, Bool.not_eq_true', and_iff_left_iff_imp, Option.isSome_iff_ne_none]
  exact h v hv

theorem status_ofVerdicts_iff : (ofVerdicts verdicts).status = true ↔ verdicts.countP (fun v => !v.passed) = 0 := by
  simp [ofVerdicts, List.countP_eq_zero]

end RunOutcome

theorem Deferred.SettlesWithin.exists_course {patience limit : Option Nat} {d : Deferred}
    (h : d.SettlesWithin patience limit) :
    ∃ delay decision, d.course = .settles delay (.decided decision) := by
  rcases h with ⟨t, hdue, -, hnone⟩
  rcases d with ⟨index, control, call, ⟨delay, decision | reason⟩ | _⟩
  · exact ⟨delay, decision, rfl⟩
  · simp [Deferred.failure?, Deferred.rejection?] at hnone
  · -- It is due only when it is out of time.
    obtain rfl : limit = some t := hdue
    simp [Deferred.failure?, Deferred.outOfTime?] at hnone

/-! ## Events -/

/-- Whether an event tells a verdict that fails. -/
def Event.isFailure : Event → Bool
  | .validated _ passed => !passed
  | _ => false

theorem countP_isFailure {events : List Event} {verdicts : List Verdict}
    (h : (events.filter Event.isValidated).Perm (verdicts.map Event.ofVerdict)) :
    events.countP Event.isFailure = verdicts.countP fun v => !v.passed := by
  have hvalidated : ∀ event : Event, (event.isFailure && event.isValidated) = event.isFailure := by
    intro event
    cases event <;> simp [Event.isFailure, Event.isValidated]
  calc
    events.countP Event.isFailure
        = (events.filter Event.isValidated).countP Event.isFailure := by
          rw [List.countP_filter]
          simp only [hvalidated]
    _ = (verdicts.map Event.ofVerdict).countP Event.isFailure := h.countP_eq _
    _ = verdicts.countP fun v => !v.passed := List.countP_map

namespace Rule

/-- Whether the check of a rule fails that leaves the decision to no validator. -/
def failsCheck (l : Locale) (form : Form) (r : Rule) : Bool :=
  match r.passes l form r.control with
  | .ok passed => !passed
  | .error _ => false

theorem discreet_of_evaluate {l : Locale} {registry : Registry} {form : Form} {r : Rule}
    {evaluation : Evaluation} (h : r.evaluate l registry form = .ok evaluation) :
    evaluation.verdict.Discreet := by
  rcases bind_eq_ok.1 h with ⟨control, -, h⟩
  unfold evaluateOn at h
  split at h
  · rcases delegate_eq_ok h with ⟨name, decide, value, -, -, -, rfl⟩
    exact Verdict.discreet_ofDecision _ _
  · rcases bind_eq_ok.1 h with ⟨passed, -, heq⟩
    cases heq
    exact Verdict.discreet_ofCheck _ _ _

end Rule

namespace Engine

variable {e : Engine} {l : Locale} {form : Form} {requested : Option String} {r : Rule}
  {v : Verdict}

/-! ## Verdicts about rules -/

/-- What a custom validator that the request asks for decides, at once or in the end. -/
inductive Decides (e : Engine) (form : Form) (requested : Option String) (r : Rule) : Decision → Prop where
  | atOnce {name : String} {value : Option String} {decide : Option String → Decision}
      (ha : r.isApplicable requested = true) (hk : r.kind = .custom) (hname : r.function = some name)
      (hvalue : r.value? form = .ok value) (hget : e.validators.get? name = some (.synchronous decide)) :
      Decides e form requested r (decide value)
  | inTheEnd {call : Call} {delay : Nat} {decision : Decision}
      (hstarts : e.Starts form requested r call (.settles delay (.decided decision))) :
      Decides e form requested r decision

/-- The verdict about a rule that the request asks for. -/
inductive Judges (e : Engine) (l : Locale) (form : Form) (requested : Option String) (r : Rule) :
    Verdict → Prop where
  | checked {passed : Bool} (hk : r.kind ≠ .custom) (hmessage : r.message ≠ none)
      (hpasses : r.passes l form r.control = .ok passed) :
      Judges e l form requested r (.ofCheck r passed r.control)
  | decided {decision : Decision} (hdecides : e.Decides form requested r decision) :
      Judges e l form requested r (.ofDecision decision r.control)

theorem Judges.control (h : e.Judges l form requested r v) : v.control = r.control := by
  cases h <;> rfl

theorem Judges.discreet (h : e.Judges l form requested r v) : v.Discreet := by
  cases h with
  | checked => exact Verdict.discreet_ofCheck _ _ _
  | decided => exact Verdict.discreet_ofDecision _ _

theorem judges_of_verdict? (h : e.verdict? l form requested r = some v) : e.Judges l form requested r v := by
  unfold verdict? at h
  split at h
  · rename_i ha
    split at h
    · cases h
    · rename_i evaluation hevaluate
      rcases Option.some.inj h with rfl
      rcases bind_eq_ok.1 hevaluate with ⟨control, hc, heval⟩
      rcases Rule.checkDeclaration_eq_ok_iff.1 hc with ⟨hdeclared, rfl⟩
      unfold Rule.evaluateOn at heval
      split at heval
      · rename_i hk
        rcases Rule.delegate_eq_ok heval with ⟨name, decide, value, hname, hget, hvalue, rfl⟩
        exact .decided (.atOnce ha hk hname hvalue hget)
      · rename_i hk
        rcases bind_eq_ok.1 heval with ⟨passed, hpasses, heq⟩
        cases heq
        exact .checked hk (hdeclared.message hk) hpasses
  · cases h

/-- A rule that is not refused has a verdict if the request asks for it. -/
theorem exists_verdict?_of_refusal?_eq_none (h : e.refusal? l form requested r = none)
    (ha : r.isApplicable requested = true) : ∃ v, e.verdict? l form requested r = some v := by
  rcases synchronousStep_of_refusal?_eq_none h with ⟨hleft, -⟩ | ⟨-, evaluation, hevaluate, -, -⟩
  · simp [hleft] at ha
  · exact ⟨evaluation.verdict, by simp [verdict?, ha, hevaluate]⟩

theorem verdict?_of_left_out (ha : r.isApplicable requested = false) :
    e.verdict? l form requested r = none := by
  simp [verdict?, ha]

theorem filter_isValidated_ruleEvents (r : Rule) :
    (e.ruleEvents l form requested r).filter Event.isValidated =
      ((e.verdict? l form requested r).map Event.ofVerdict).toList := by
  unfold ruleEvents
  cases hv : e.verdict? l form requested r with
  | none => rfl
  | some v =>
      have hcontrol : v.control = r.control := (judges_of_verdict? hv).control
      cases r.call? form <;> simp [Event.isValidated, Event.ofVerdict, hcontrol]

/-- The verdicts that rules send are those about them. -/
theorem filter_isValidated_flatMap (rules : List Rule) :
    (rules.flatMap (e.ruleEvents l form requested)).filter Event.isValidated =
      (rules.filterMap (e.verdict? l form requested)).map Event.ofVerdict := by
  induction rules with
  | nil => rfl
  | cons r rules ih =>
      rw [List.flatMap_cons, List.filter_append, ih, filter_isValidated_ruleEvents]
      cases hv : e.verdict? l form requested r <;> simp [hv]

/-! ## Verdicts of asynchronous validators -/

theorem get?_immediate (e : Engine) (name : String) :
    e.immediate.validators.get? name = (e.validators.get? name).map CustomValidator.immediate :=
  NameMap.get?_map _ _ _

/-- What validators decide when they decide at once they decide in the end, if they settle. -/
theorem decides_of_immediate {decision : Decision}
    (hsettle : ∀ call course, e.asynchronous? form requested r = some (call, course) →
      ∃ delay decision, course = .settles delay (.decided decision))
    (h : e.immediate.Decides form requested r decision) : e.Decides form requested r decision := by
  cases h with
  | @atOnce name value decide ha hk hname hvalue hget =>
      rw [get?_immediate] at hget
      rcases Option.map_eq_some_iff.1 hget with ⟨validator, hv, himmediate⟩
      cases validator with
      | synchronous decide' =>
          cases himmediate
          exact .atOnce ha hk hname hvalue hv
      | asynchronous start =>
          cases himmediate
          have hcall : e.asynchronous? form requested r = some (⟨name, value⟩, start value) := by
            simp [asynchronous?, ha, hk, Rule.validator, hname, hv, hvalue]
          obtain ⟨delay, decision, hcourse⟩ := hsettle _ _ hcall
          have hdecision : (start value).decision = decision := by rw [hcourse]; rfl
          show e.Decides form requested r (start value).decision
          rw [hdecision]
          have hstarts : e.Starts form requested r ⟨name, value⟩ (.settles delay (.decided decision)) :=
            ⟨ha, hk, hname, hvalue, start, hv, hcourse.symm⟩
          exact .inTheEnd hstarts
  | inTheEnd hstarts =>
      -- No validator takes time.
      obtain ⟨start, hget, -⟩ := hstarts.registered
      rw [get?_immediate] at hget
      rcases Option.map_eq_some_iff.1 hget with ⟨validator, -, himmediate⟩
      cases validator <;> cases himmediate

theorem judges_of_immediate
    (hsettle : ∀ call course, e.asynchronous? form requested r = some (call, course) →
      ∃ delay decision, course = .settles delay (.decided decision))
    (h : e.immediate.Judges l form requested r v) : e.Judges l form requested r v := by
  cases h with
  | checked hk hmessage hpasses => exact .checked hk hmessage hpasses
  | decided hdecides => exact .decided (decides_of_immediate hsettle hdecides)

theorem exists_deferral {rules : List Rule} {call : Call} {course : Course} (hr : r ∈ rules)
    (hcall : e.asynchronous? form requested r = some (call, course)) :
    ∃ d ∈ e.deferrals form requested rules, d.course = course := by
  rcases List.mem_iff_getElem?.1 hr with ⟨index, hindex⟩
  refine ⟨⟨index, r.control, call, course⟩, ?_, rfl⟩
  refine List.mem_filterMap.2 ⟨(r, index), List.mk_mem_zipIdx_iff_getElem?.2 hindex, ?_⟩
  simp [hcall]

/-! ## Runs that come to their end -/

/-- A run of either kind that comes to its end. -/
inductive Finishes (e : Engine) (form : Form) (requested : Option String) (events : List Event)
    (outcome : RunOutcome) : Prop where
  | synchronous (h : e.validate form requested = (events, .ok outcome))
  | asynchronous {patience : Option Nat} (h : e.validateAsync form requested patience = (events, .finished outcome))

/-- What came of a run: the verdicts about the rules that the request asks for were sent, and lead to the
outcome. -/
structure Judged (e : Engine) (form : Form) (requested : Option String) (events : List Event)
    (outcome : RunOutcome) (l : Locale) (rules : List Rule) (verdict : Rule → Option Verdict) : Prop where
  active : e.locales.current = .ok l
  declared : form.rules = .ok rules
  outcome_eq : outcome = .ofVerdicts (rules.filterMap verdict)
  sent : (events.filter Event.isValidated).Perm ((rules.filterMap verdict).map .ofVerdict)
  left_out : ∀ r ∈ rules, r.isApplicable requested = false → verdict r = none
  judged : ∀ r ∈ rules, r.isApplicable requested = true →
    ∃ v, verdict r = some v ∧ e.Judges l form requested r v

theorem filter_isValidated_run (requested : Option String) (shown : List Event) (outcome : RunOutcome) :
    (Event.began requested :: shown ++ [Event.ended outcome]).filter Event.isValidated =
      shown.filter Event.isValidated := by
  simp [Event.isValidated]

theorem exists_judged_of_validate {events : List Event} {outcome : RunOutcome}
    (h : e.validate form requested = (events, .ok outcome)) :
    ∃ l rules verdict, e.Judged form requested events outcome l rules verdict := by
  rcases validate_eq_ok_iff.1 (congrArg Prod.snd h) with ⟨l, rules, hl, hrules, hnone, houtcome⟩
  have hrun := validate_eq_of_trace hl (.finished hrules hnone houtcome)
  obtain rfl : _ = events := congrArg Prod.fst (hrun.symm.trans h)
  refine ⟨l, rules, e.verdict? l form requested, hl, hrules, houtcome, ?_,
    fun r _ ha => verdict?_of_left_out ha, ?_⟩
  · rw [filter_isValidated_run, filter_isValidated_flatMap]
  · intro r hr ha
    rcases exists_verdict?_of_refusal?_eq_none (hnone r hr) ha with ⟨v, hv⟩
    exact ⟨v, hv, judges_of_verdict? hv⟩

/-- The verdicts of an asynchronous run are those that its validators come to when they decide at once. -/
theorem exists_judged_of_validateAsync {patience : Option Nat} {events : List Event} {outcome : RunOutcome}
    (h : e.validateAsync form requested patience = (events, .finished outcome)) :
    ∃ l rules verdict, e.Judged form requested events outcome l rules verdict := by
  cases hl : e.locales.current with
  | error x => simp [validateAsync, beginRun, hl] at h
  | ok l =>
      rcases hbegin : beginRun (fun l => e.asynchronousStep l form requested) e form requested with
        ⟨walk, x | walked⟩
      · simp [validateAsync, hbegin] at h
      · rcases exists_rules_of_beginRun_eq_ok hl (congrArg Prod.snd hbegin) with ⟨rules, hrules, hscan⟩
        have hnone : ∀ r ∈ rules, e.immediate.refusal? l form requested r = none :=
          fun r hr => (refusal?_immediate r).trans (hscan r hr)
        -- The run is finished, so every deferred validator settles.
        have hsettle : ∀ d ∈ e.deferrals form requested rules, d.SettlesWithin patience e.timeLimit := by
          rw [validateAsync_eq_settle patience hl hrules hscan] at h
          exact settlesWithin_of_settle (congrArg Prod.snd h)
        rcases validateAsync_of_settlesWithin hl hrules hnone hsettle with ⟨shown, hperm, hrun⟩
        obtain ⟨rfl, houtcome⟩ := Prod.mk.inj (hrun.symm.trans h)
        refine ⟨l, rules, e.immediate.verdict? l form requested, hl, hrules,
          (RunEnd.finished.inj houtcome).symm, ?_, fun r _ ha => verdict?_of_left_out ha, ?_⟩
        · rw [filter_isValidated_run, ← filter_isValidated_flatMap]
          exact hperm.filter _
        · intro r hr ha
          rcases exists_verdict?_of_refusal?_eq_none (hnone r hr) ha with ⟨v, hv⟩
          refine ⟨v, hv, judges_of_immediate ?_ (judges_of_verdict? hv)⟩
          intro call course hcall
          rcases exists_deferral hr hcall with ⟨d, hd, rfl⟩
          exact (hsettle d hd).exists_course

theorem Finishes.exists_judged {events : List Event} {outcome : RunOutcome}
    (h : e.Finishes form requested events outcome) :
    ∃ l rules verdict, e.Judged form requested events outcome l rules verdict := by
  cases h with
  | synchronous h => exact exists_judged_of_validate h
  | asynchronous h => exact exists_judged_of_validateAsync h

/-! ## Reports -/

/-- A failing verdict has a message unless a custom validator gave none. -/
theorem Judges.explained (h : e.Judges l form requested r v)
    (hmessage : ∀ decision, e.Decides form requested r decision → decision.valid = false →
      decision.message ≠ none) : v.Explained := by
  intro hfails
  cases h with
  | @checked passed hk hdeclared hpasses =>
      obtain rfl : passed = false := hfails
      exact hdeclared
  | @decided decision hdecides =>
      have hvalid : decision.valid = false := hfails
      simpa [Verdict.ofDecision, hvalid] using hmessage decision hdecides hvalid

/-- What a rule that leaves the decision to no validator reports is the message that it declares. -/
theorem Judges.report_eq (h : e.Judges l form requested r v) (hk : r.kind ≠ .custom) :
    (r.failsCheck l form = true → ∃ message, v.report = some message ∧ r.message = some message) ∧
      (r.failsCheck l form = false → v.report = none) := by
  cases h with
  | @checked passed _ hdeclared hpasses =>
      rcases Option.ne_none_iff_exists'.1 hdeclared with ⟨message, hmessage⟩
      cases passed <;> simp [Rule.failsCheck, hpasses, Verdict.report, Verdict.ofCheck, hmessage]
  | decided hdecides =>
      cases hdecides with
      | atOnce _ hcustom => exact absurd hcustom hk
      | inTheEnd hstarts => exact absurd hstarts.custom hk

theorem map_some_filterMap {α β : Type} {p : α → Bool} {f g : α → Option β} {l : List α}
    (hin : ∀ a ∈ l, p a = true → ∃ b, g a = some b ∧ f a = some b)
    (hout : ∀ a ∈ l, p a = false → g a = none) : (l.filterMap g).map some = (l.filter p).map f := by
  induction l with
  | nil => rfl
  | cons a l ih =>
      have hrest := ih (fun b hb => hin b (List.mem_cons_of_mem _ hb))
        (fun b hb => hout b (List.mem_cons_of_mem _ hb))
      cases hp : p a with
      | true =>
          rcases hin a List.mem_cons_self hp with ⟨b, hg, hf⟩
          simp [hg, hp, hf, hrest]
      | false => simp [hout a List.mem_cons_self hp, hp, hrest]

namespace Judged

variable {events : List Event} {outcome : RunOutcome} {rules : List Rule} {verdict : Rule → Option Verdict}

theorem exists_judges (h : e.Judged form requested events outcome l rules verdict)
    (hv : v ∈ rules.filterMap verdict) : ∃ r ∈ rules, e.Judges l form requested r v := by
  rcases List.mem_filterMap.1 hv with ⟨r, hr, hv⟩
  cases ha : r.isApplicable requested with
  | false => simp [h.left_out r hr ha] at hv
  | true =>
      rcases h.judged r hr ha with ⟨v', hv', hjudges⟩
      obtain rfl : v' = v := by simpa [hv'] using hv
      exact ⟨r, hr, hjudges⟩

theorem countP_eq (h : e.Judged form requested events outcome l rules verdict) :
    events.countP Event.isFailure = (rules.filterMap verdict).countP fun v => !v.passed :=
  countP_isFailure h.sent

theorem length_messages_le (h : e.Judged form requested events outcome l rules verdict) :
    outcome.messages.length ≤ events.countP Event.isFailure := by
  rw [h.countP_eq, h.outcome_eq]
  exact RunOutcome.length_messages_le _

/-- If every failing validator gave a message, every failure is reported. -/
theorem length_messages_eq (h : e.Judged form requested events outcome l rules verdict)
    (hmessage : ∀ r ∈ rules, ∀ decision, e.Decides form requested r decision → decision.valid = false →
      decision.message ≠ none) : outcome.messages.length = events.countP Event.isFailure := by
  rw [h.countP_eq, h.outcome_eq]
  apply RunOutcome.length_messages_eq
  intro v hv
  rcases h.exists_judges hv with ⟨r, hr, hjudges⟩
  exact hjudges.explained (hmessage r hr)

theorem status_iff (h : e.Judged form requested events outcome l rules verdict) :
    outcome.status = true ↔ events.countP Event.isFailure = 0 := by
  rw [h.countP_eq, h.outcome_eq]
  exact RunOutcome.status_ofVerdicts_iff

/-- If no validator is to be called, the messages are those that the failing rules declare. -/
theorem map_some_messages (h : e.Judged form requested events outcome l rules verdict)
    (hcustom : ∀ r ∈ rules, r.isApplicable requested = true → r.kind ≠ .custom) :
    outcome.messages.map some =
      (rules.filter fun r => r.isApplicable requested && r.failsCheck l form).map (·.message) := by
  rw [h.outcome_eq]
  show ((rules.filterMap verdict).filterMap Verdict.report).map some = _
  rw [List.filterMap_filterMap]
  refine map_some_filterMap ?_ ?_
  · intro r hr hfails
    obtain ⟨ha, hfails⟩ := Bool.and_eq_true_iff.1 hfails
    rcases h.judged r hr ha with ⟨v, hv, hjudges⟩
    rw [hv]
    exact (hjudges.report_eq (hcustom r hr ha)).1 hfails
  · intro r hr hpasses
    cases ha : r.isApplicable requested with
    | false =>
        rw [h.left_out r hr ha]
        rfl
    | true =>
        rcases h.judged r hr ha with ⟨v, hv, hjudges⟩
        have hfails : r.failsCheck l form = false := by simpa [ha] using hpasses
        rw [hv]
        exact (hjudges.report_eq (hcustom r hr ha)).2 hfails

end Judged

/-- A run that comes to its end reports at most as many messages as it sends verdicts that fail.  It reports as
many if every custom validator that refuses a value gives a message, and then its status is good exactly if
there is no message.  That is so if the request asks for no custom rule; the messages are then those that the
failing rules declare.  No verdict that passes has a message, in a run or alone. -/
theorem reports_of_finishes (e : Engine) (form : Form) (requested : Option String) :
    (∀ events outcome, e.Finishes form requested events outcome →
      ∃ l rules verdicts, e.locales.current = .ok l ∧ form.rules = .ok rules ∧
        outcome = .ofVerdicts verdicts ∧
        (events.filter Event.isValidated).Perm (verdicts.map Event.ofVerdict) ∧
        (∀ v ∈ verdicts, v.passed = true → v.message = none) ∧
        outcome.messages.length ≤ events.countP Event.isFailure ∧
        ((∀ r ∈ rules, ∀ decision, e.Decides form requested r decision → decision.valid = false →
            decision.message ≠ none) →
          outcome.messages.length = events.countP Event.isFailure ∧
            (outcome.status = true ↔ outcome.messages = [])) ∧
        ((∀ r ∈ rules, r.isApplicable requested = true → r.kind ≠ .custom) →
          outcome.messages.length = events.countP Event.isFailure ∧
            (outcome.status = true ↔ outcome.messages = []) ∧
            outcome.messages.map some =
              (rules.filter fun r => r.isApplicable requested && r.failsCheck l form).map (·.message))) ∧
    ∀ (l : Locale) (r : Rule) (evaluation : Evaluation),
      r.evaluate l e.validators form = .ok evaluation →
        evaluation.verdict.passed = true → evaluation.verdict.message = none := by
  refine ⟨?_, fun l r evaluation => Rule.discreet_of_evaluate⟩
  intro events outcome h
  rcases h.exists_judged with ⟨l, rules, verdict, hjudged⟩
  have hreported : (∀ r ∈ rules, ∀ decision, e.Decides form requested r decision → decision.valid = false →
      decision.message ≠ none) → outcome.messages.length = events.countP Event.isFailure ∧
        (outcome.status = true ↔ outcome.messages = []) := by
    intro hmessage
    have hlength := hjudged.length_messages_eq hmessage
    refine ⟨hlength, ?_⟩
    rw [hjudged.status_iff, ← hlength, List.length_eq_zero_iff]
  refine ⟨l, rules, rules.filterMap verdict, hjudged.active, hjudged.declared, hjudged.outcome_eq,
    hjudged.sent, ?_, hjudged.length_messages_le, hreported, ?_⟩
  · intro v hv
    rcases hjudged.exists_judges hv with ⟨r, -, hjudges⟩
    exact hjudges.discreet
  · intro hcustom
    have hnone : ∀ r ∈ rules, ∀ decision, ¬e.Decides form requested r decision := by
      intro r hr decision hdecides
      cases hdecides with
      | atOnce ha hk => exact hcustom r hr ha hk
      | inTheEnd hstarts => exact hcustom r hr hstarts.applicable hstarts.custom
    have hall := hreported fun r hr decision hdecides => absurd hdecides (hnone r hr decision)
    exact ⟨hall.1, hall.2, hjudged.map_some_messages hcustom⟩

/-- An engine with a validator that refuses without a message, and one that accepts with a message. -/
def taciturn : Engine where
  validators := .ofList
    [("quiet", .synchronous fun _ => ⟨false, none⟩), ("chatty", .synchronous fun _ => ⟨true, some "fine"⟩)]

/-- A form that calls them, behind a rule that fails. -/
def taciturnForm : Form where
  controls := [⟨"name", .textarea ""⟩]
  validators :=
    [.ofList [("validate", "required"), ("control", "name"), ("message", "who?"), ("validationgroup", "main")],
      .ofList [("validate", "custom"), ("function", "quiet")],
      .ofList [("validate", "custom"), ("function", "chatty")]]

/-- Of two failures one is reported, unless the request leaves out the silent one. -/
theorem reports_of_finishes_taciturn :
    (∃ events, taciturn.Finishes taciturnForm none events ⟨false, ["who?"]⟩ ∧
      events.countP Event.isFailure = 2 ∧ ["who?"].length ≤ events.countP Event.isFailure) ∧
    ∃ events, taciturn.Finishes taciturnForm (some "main") events ⟨false, ["who?"]⟩ ∧
      ["who?"].length = events.countP Event.isFailure := by
  have hall : taciturn.Finishes taciturnForm none _ ⟨false, ["who?"]⟩ :=
    .synchronous (Prod.ext rfl (by decide +kernel))
  have hmain : taciturn.Finishes taciturnForm (some "main") _ ⟨false, ["who?"]⟩ :=
    .synchronous (Prod.ext rfl (by decide +kernel))
  refine ⟨⟨_, hall, by decide +kernel, ?_⟩, _, hmain, ?_⟩
  · rcases (reports_of_finishes taciturn taciturnForm none).1 _ _ hall with
      ⟨l, rules, verdicts, -, -, -, -, -, hle, -⟩
    exact hle
  · rcases (reports_of_finishes taciturn taciturnForm (some "main")).1 _ _ hmain with
      ⟨l, rules, verdicts, -, hrules, -, -, -, -, -, hcustom⟩
    have hcheck : (taciturnForm.rules.toOption.getD []).all fun r =>
        !r.isApplicable (some "main") || r.kind != .custom := by
      decide +kernel
    refine (hcustom ?_).1
    intro r hr ha
    rw [hrules] at hcheck
    have hr' := List.all_eq_true.1 hcheck r hr
    simpa [ha] using hr'

end Engine
end FormValidation
