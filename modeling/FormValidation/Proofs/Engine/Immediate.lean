import FormValidation.Proofs.Engine.Asynchronous

/-!
# Asynchronous validators that settle in time

If every asynchronous validator of a run settles with a decision in time, the run comes to what a
synchronous run comes to in which these validators decide at once (`validateAsync_eq_immediate`).

* `Engine.immediate` — the engine in which they do;
* `synchronousStep_immediate` — its walk takes the steps of the asynchronous walk, with nothing deferred;
* `outcome_recordAll_immediate`, `perm_events_asynchronousStep` — so the outcomes of the two runs are the
  same, and their events are up to the order;
* `settle_of_settlesWithin` — and what is deferred is settled in the end.
-/

namespace FormValidation

/-! ## Maps with other values -/

namespace NameMap

variable {α β : Type}

theorem sorted_map (f : α → β) {l : List (String × α)} (h : Sorted l) :
    Sorted (l.map fun e => (e.1, f e.2)) := by
  unfold Sorted at h ⊢
  rwa [List.pairwise_map]

/-- The map in which every name has the image of its value. -/
def map (f : α → β) (m : NameMap α) : NameMap β :=
  ⟨m.entries.map fun e => (e.1, f e.2), sorted_map f m.sorted⟩

theorem get?_map (f : α → β) (m : NameMap α) (name : String) :
    (m.map f).get? name = (m.get? name).map f := by
  rcases m with ⟨entries, sorted⟩
  show find? name (entries.map fun e => (e.1, f e.2)) = (find? name entries).map f
  clear sorted
  induction entries with
  | nil => rfl
  | cons e entries ih =>
      by_cases h : e.1 = name <;> simp [find?, h, ih]

end NameMap

/-! ## Deciding at once -/

/-- The validator that decides at once what a validator decides. -/
def CustomValidator.immediate : CustomValidator → CustomValidator
  | .synchronous decide => .synchronous decide
  | .asynchronous start => .synchronous fun value => (start value).decision

/-- The step in which a deferred rule is evaluated at once. -/
def RuleStep.immediate : RuleStep → RuleStep
  | .deferred control call course => .evaluated ⟨.ofDecision course.decision control, some call⟩
  | s => s

namespace StepResult

theorem error?_immediate (s : StepResult) : error? (s.map RuleStep.immediate) = s.error? := by
  rcases s with _ | _ | _ | _ <;> rfl

theorem verdictAt?_immediate (s : StepResult) (index : Nat) :
    verdictAt? (s.map RuleStep.immediate) index =
      (s.verdictAt? index).or ((s.deferred? index).map Deferred.entry) := by
  rcases s with _ | _ | _ | _ <;> rfl

theorem events_immediate (s : StepResult) (index : Nat) :
    events (s.map RuleStep.immediate) =
      s.events ++ (s.deferred? index).toList.flatMap fun d => [.called d.call, d.settled] := by
  rcases s with _ | _ | evaluation | _
  · rfl
  · rfl
  · exact (List.append_nil _).symm
  · rfl

end StepResult

/-- The end of a run that does not wait. -/
def RunEnd.ofResult : Except Error RunOutcome → RunEnd
  | .ok outcome => .finished outcome
  | .error x => .failed x

namespace Rule

variable {registry : Registry} {form : Form} {l : Locale} {r : Rule}

theorem validator_map (f : CustomValidator → CustomValidator) (registry : Registry) (r : Rule) :
    r.validator (registry.map f) = (r.validator registry).map fun p => (p.1, f p.2) := by
  unfold validator
  cases r.function with
  | none => rfl
  | some name =>
      simp only [NameMap.get?_map]
      cases registry.get? name <;> rfl

/-- A rule without an asynchronous validator is evaluated as before. -/
theorem evaluateOn_immediate {control : Option String}
    (h : r.kind = .custom → ∀ name start, r.validator registry ≠ .ok (name, .asynchronous start)) :
    r.evaluateOn l (registry.map CustomValidator.immediate) form control =
      r.evaluateOn l registry form control := by
  unfold evaluateOn
  by_cases hk : r.kind = .custom
  · -- The registry matters for custom rules only.
    rw [if_pos hk, if_pos hk, delegate, delegate, validator_map]
    cases hv : r.validator registry with
    | error x => rfl
    | ok p =>
        rcases p with ⟨name, decide | start⟩
        · rfl
        · exact absurd hv (h hk name start)
  · rw [if_neg hk, if_neg hk]

end Rule

namespace Engine

variable {e : Engine} {l : Locale} {form : Form} {requested : Option String}
  {patience : Option Nat}

/-- The engine in which asynchronous validators decide at once. -/
def immediate (e : Engine) : Engine :=
  { e with validators := e.validators.map CustomValidator.immediate }

/-- Whether every asynchronous validator that a run starts settles with a decision, neither after the
time limit nor after patience is over. -/
def SettlesInTime (e : Engine) (form : Form) (requested : Option String) (patience : Option Nat) :
    Prop :=
  ∀ rules, form.rules = .ok rules → ∀ r ∈ rules, ∀ call course,
    e.asynchronous? form requested r = some (call, course) →
      ∃ delay decision, course = .settles delay (.decided decision) ∧
        (∀ t ∈ e.timeLimit, delay ≤ t) ∧ ∀ p ∈ patience, delay ≤ p

/-! ## Steps of the walk -/

/-- A rule that is not deferred takes the same step. -/
theorem synchronousStep_immediate_of_not_defers {r : Rule} (h : ¬e.Defers requested r) :
    e.immediate.synchronousStep l form requested r = e.synchronousStep l form requested r := by
  unfold synchronousStep
  cases hc : r.checkDeclaration form with
  | error x => rfl
  | ok control =>
      by_cases ha : r.isApplicable requested = true
      · have heval : r.evaluateOn l e.immediate.validators form control =
            r.evaluateOn l e.validators form control :=
          Rule.evaluateOn_immediate fun hk name start hv => h ⟨ha, hk, name, start, hv⟩
        simp [ha, heval, evaluateNow, bind, Except.bind]
      · simp [ha, bind, Except.bind]

theorem map_immediate_synchronousStep (r : Rule) :
    (e.synchronousStep l form requested r).map RuleStep.immediate =
      e.synchronousStep l form requested r := by
  have hnone : StepResult.deferred? (e.synchronousStep l form requested r) 0 = none :=
    deferred?_synchronousStep 0
  cases hs : e.synchronousStep l form requested r with
  | error x => rfl
  | ok s =>
      cases s with
      | skipped => rfl
      | evaluated evaluation => rfl
      | deferred control call course => simp [hs, StepResult.deferred?] at hnone

/-- The walk in which validators decide at once takes the steps of the asynchronous one. -/
theorem synchronousStep_immediate (r : Rule) :
    e.immediate.synchronousStep l form requested r =
      (e.asynchronousStep l form requested r).map RuleStep.immediate := by
  by_cases hd : e.Defers requested r
  · rcases hd with ⟨ha, hk, name, start, hv⟩
    cases hc : r.checkDeclaration form with
    | error x => simp [synchronousStep, asynchronousStep, hc, bind, Except.bind, Except.map]
    | ok control =>
        rcases Rule.checkDeclaration_eq_ok hc with rfl
        -- The name is now that of a validator that decides at once, when the value is read.
        have hv' : r.validator e.immediate.validators =
            .ok (name, .synchronous fun value => (start value).decision) := by
          rw [immediate, Rule.validator_map, hv]
          rfl
        rw [asynchronousStep_of_defers hc ha hk hv, synchronousStep, hc]
        cases hvalue : r.control.mapM form.read <;>
          simp [Rule.value?, hvalue, ha, hk, hv', evaluateNow, Rule.evaluateOn, Rule.delegate, bind,
            Except.bind, pure, Except.pure, Except.map, RuleStep.immediate]
  · rw [asynchronousStep_of_not_defers hd, synchronousStep_immediate_of_not_defers hd,
      map_immediate_synchronousStep]

/-! ## Walks -/

/-- The verdicts of a walk and of what it defers are those of the walk in which nothing is deferred. -/
theorem perm_entriesFrom_immediate (step : Rule → StepResult) (index : Nat) (rules : List Rule) :
    (entriesFrom step index rules ++ (deferredFrom step index rules).map Deferred.entry).Perm
      (entriesFrom (fun r => (step r).map RuleStep.immediate) index rules) := by
  induction rules generalizing index with
  | nil => rfl
  | cons r rules ih =>
      rw [entriesFrom_cons, deferredFrom_cons, entriesFrom_cons, StepResult.verdictAt?_immediate]
      refine List.Perm.trans ?_ ((ih (index + 1)).append_left _)
      rcases step r with _ | _ | _ | _
      · rfl
      · rfl
      · rfl
      · -- The verdict of a deferred rule moves to the place of the rule.
        exact List.perm_middle

/-- The events of a walk and of what it defers are those of the walk in which nothing is deferred. -/
theorem perm_events_immediate (step : Rule → StepResult) (index : Nat) (rules : List Rule) :
    ((rules.flatMap fun r => (step r).events) ++
        (deferredFrom step index rules).flatMap fun d => [.called d.call, d.settled]).Perm
      (rules.flatMap fun r => StepResult.events ((step r).map RuleStep.immediate)) := by
  induction rules generalizing index with
  | nil => rfl
  | cons r rules ih =>
      rw [List.flatMap_cons, List.flatMap_cons, deferredFrom_cons, List.flatMap_append,
        StepResult.events_immediate (step r) index, List.append_assoc, List.append_assoc]
      -- What is deferred at this rule moves in front of the events of the rules behind it.
      refine ((List.perm_append_comm_assoc _ _ _).trans ?_).append_left _
      exact (ih (index + 1)).append_left _

/-- Validators that do not fail are called and send their verdicts, in whatever order. -/
theorem perm_events_settle {limit : Option Nat} {deferred : List Deferred}
    (h : ∀ d ∈ deferred, d.failure? limit = none) :
    (deferred.flatMap (Deferred.startEvents limit) ++
        (queue limit deferred).map Deferred.settled).Perm
      (deferred.flatMap fun d => [.called d.call, d.settled]) := by
  refine (((perm_queue limit deferred).map Deferred.settled).append_left _).trans ?_
  induction deferred with
  | nil => rfl
  | cons d deferred ih =>
      have hrest := ih fun d' hd' => h d' (List.mem_cons_of_mem _ hd')
      have hnone := h d List.mem_cons_self
      by_cases hdue : d.due? limit = some 0
      · have hstart : d.startEvents limit = [.called d.call, d.settled] := by
          simp [Deferred.startEvents, hdue, hnone]
        have hwaiting : waiting limit (d :: deferred) = waiting limit deferred := by
          simp [waiting, hdue]
        rw [List.flatMap_cons, List.flatMap_cons, hstart, hwaiting, List.append_assoc]
        exact hrest.append_left _
      · have hstart : d.startEvents limit = [.called d.call] := by
          simp [Deferred.startEvents, hdue]
        have hwaiting : waiting limit (d :: deferred) = d :: waiting limit deferred := by
          simp [waiting, hdue]
        rw [List.flatMap_cons, List.flatMap_cons, hstart, hwaiting, List.map_cons, List.append_assoc]
        exact (List.perm_middle.trans (hrest.cons _)).cons _

/-! ## Runs -/

/-- What a rule shows is neither the beginning nor the end of a run. -/
theorem not_mem_ruleEvents (r : Rule) :
    (∀ group, .began group ∉ e.ruleEvents l form requested r) ∧
      ∀ outcome, .ended outcome ∉ e.ruleEvents l form requested r := by
  unfold ruleEvents
  cases e.verdict? l form requested r <;> simp

/-- Validators that settle in time whatever they are called with. -/
theorem settlesInTime_of_validators
    (h : ∀ name start value, e.validators.get? name = some (.asynchronous start) →
      ∃ delay decision, start value = .settles delay (.decided decision) ∧
        (∀ t ∈ e.timeLimit, delay ≤ t) ∧ ∀ p ∈ patience, delay ≤ p) :
    e.SettlesInTime form requested patience := by
  intro rules _ r _ call course hcall
  unfold asynchronous? at hcall
  split at hcall
  · split at hcall
    · rename_i name start value hv _
      obtain ⟨-, rfl⟩ : _ ∧ start value = course := by simpa using hcall
      exact h name start value (Rule.validator_eq_ok hv).2
    · simp at hcall
  · simp at hcall

theorem settlesWithin_of_settlesInTime (h : e.SettlesInTime form requested patience)
    {rules : List Rule} (hrules : form.rules = .ok rules) :
    ∀ d ∈ e.deferrals form requested rules, d.SettlesWithin patience e.timeLimit := by
  intro d hd
  rcases List.mem_filterMap.1 hd with ⟨⟨r, index⟩, hr, hd⟩
  rcases Option.map_eq_some_iff.1 hd with ⟨⟨call, course⟩, hcall, rfl⟩
  obtain ⟨delay, decision, rfl, hlimit, hpatience⟩ :=
    h rules hrules r (List.fst_mem_of_mem_zipIdx hr) call course hcall
  refine ⟨delay, ?_, hpatience, ?_⟩
  · cases ht : e.timeLimit with
    | none => rfl
    | some t => simpa [Deferred.due?] using hlimit t ht
  · cases ht : e.timeLimit with
    | none => rfl
    | some t => simpa [Deferred.failure?, Deferred.outOfTime?, Deferred.rejection?] using hlimit t ht

theorem refusal?_immediate (r : Rule) :
    e.immediate.refusal? l form requested r =
      StepResult.error? (e.asynchronousStep l form requested r) := by
  rw [← error?_synchronousStep, synchronousStep_immediate, StepResult.error?_immediate]

theorem map_immediate_asynchronousStep :
    (fun r => (e.asynchronousStep l form requested r).map RuleStep.immediate) =
      e.immediate.synchronousStep l form requested := by
  funext r
  exact (synchronousStep_immediate r).symm

/-- The verdicts, recorded in the order in which they come, lead to the outcome of the walk in which
nothing is deferred. -/
theorem outcome_recordAll_immediate {rules : List Rule} (limit : Option Nat)
    (hnone : ∀ r ∈ rules, e.immediate.refusal? l form requested r = none) :
    let deferred := deferredFrom (e.asynchronousStep l form requested) 0 rules
    (((({} : Accumulation).begin).recordAll
        (entriesFrom (e.asynchronousStep l form requested) 0 rules)).recordAll
          ((prompt limit deferred ++ queue limit deferred).map Deferred.entry)).outcome =
      .ofVerdicts (rules.filterMap (e.immediate.verdict? l form requested)) := by
  intro deferred
  have hperm : (entriesFrom (e.asynchronousStep l form requested) 0 rules ++
        (prompt limit deferred ++ queue limit deferred).map Deferred.entry).Perm
      (entriesFrom (e.immediate.synchronousStep l form requested) 0 rules) := by
    calc
      List.Perm (entriesFrom (e.asynchronousStep l form requested) 0 rules ++
            (prompt limit deferred ++ queue limit deferred).map Deferred.entry)
          (entriesFrom (e.asynchronousStep l form requested) 0 rules ++ deferred.map Deferred.entry) :=
        ((perm_prompt_append_queue limit deferred).map Deferred.entry).append_left _
      List.Perm _ (entriesFrom
          (fun r => (e.asynchronousStep l form requested r).map RuleStep.immediate) 0 rules) :=
        perm_entriesFrom_immediate _ 0 rules
      _ = entriesFrom (e.immediate.synchronousStep l form requested) 0 rules := by
        rw [map_immediate_asynchronousStep]
  rw [← Accumulation.recordAll_append,
    Accumulation.outcome_recordAll hperm (pairwise_entriesFrom _ 0 rules),
    map_snd_entriesFrom_synchronousStep hnone]

/-- The events of the walk and of the validators that settle are those of the walk in which nothing is
deferred. -/
theorem perm_events_asynchronousStep {rules : List Rule} {limit : Option Nat}
    (hnone : ∀ r ∈ rules, e.immediate.refusal? l form requested r = none)
    (hsettle : ∀ d ∈ e.deferrals form requested rules, d.failure? limit = none) :
    (rules.flatMap (e.ruleEvents l form requested) ++
        ((e.deferrals form requested rules).flatMap (Deferred.startEvents limit) ++
          (queue limit (e.deferrals form requested rules)).map Deferred.settled)).Perm
      (rules.flatMap (e.immediate.ruleEvents l form requested)) := by
  have hscan : ∀ r ∈ rules, StepResult.error? (e.asynchronousStep l form requested r) = none :=
    fun r hr => (refusal?_immediate r).symm.trans (hnone r hr)
  have hevents : rules.flatMap (e.ruleEvents l form requested) =
      rules.flatMap fun r => StepResult.events (e.asynchronousStep l form requested r) :=
    List.flatMap_congr fun r hr => (asynchronousStep_of_ok (hscan r hr) 0).1.symm
  calc
    List.Perm (rules.flatMap (e.ruleEvents l form requested) ++
          ((e.deferrals form requested rules).flatMap (Deferred.startEvents limit) ++
            (queue limit (e.deferrals form requested rules)).map Deferred.settled))
        ((rules.flatMap fun r => StepResult.events (e.asynchronousStep l form requested r)) ++
          (e.deferrals form requested rules).flatMap fun d => [.called d.call, d.settled]) := by
      rw [hevents]
      exact (perm_events_settle hsettle).append_left _
    List.Perm _ (rules.flatMap fun r =>
        StepResult.events ((e.asynchronousStep l form requested r).map RuleStep.immediate)) := by
      rw [← deferredFrom_asynchronousStep hscan]
      exact perm_events_immediate _ 0 rules
    _ = rules.flatMap (e.immediate.ruleEvents l form requested) := by
      apply List.flatMap_congr
      intro r hr
      rw [← synchronousStep_immediate, events_synchronousStep (hnone r hr)]

/-- A run in which no rule is refused and every deferred validator settles. -/
theorem validateAsync_of_settlesWithin (hl : e.locales.current = .ok l) {rules : List Rule}
    (hrules : form.rules = .ok rules)
    (hnone : ∀ r ∈ rules, e.immediate.refusal? l form requested r = none)
    (hsettle : ∀ d ∈ e.deferrals form requested rules, d.SettlesWithin patience e.timeLimit) :
    ∃ events, events.Perm (rules.flatMap (e.immediate.ruleEvents l form requested)) ∧
      e.validateAsync form requested patience =
        let outcome := .ofVerdicts (rules.filterMap (e.immediate.verdict? l form requested))
        (.began requested :: events ++ [.ended outcome], .finished outcome) := by
  have hscan : ∀ r ∈ rules, StepResult.error? (e.asynchronousStep l form requested r) = none :=
    fun r hr => (refusal?_immediate r).symm.trans (hnone r hr)
  have houtcome := outcome_recordAll_immediate e.timeLimit hnone
  simp only [deferredFrom_asynchronousStep hscan] at houtcome
  have hrun := validateAsync_eq_settle patience hl hrules hscan
  rw [settle_of_settlesWithin hsettle] at hrun
  simp only [houtcome] at hrun
  refine ⟨_, perm_events_asynchronousStep hnone fun d hd => (hsettle d hd).failure?_eq_none, ?_⟩
  rw [hrun, ← List.append_assoc, List.cons_append]

/-- A refused rule ends an asynchronous run. -/
theorem validateAsync_of_refusal {done rest : List Rule} {r : Rule} {x : Error}
    (patience : Option Nat) (hl : e.locales.current = .ok l)
    (hrules : form.rules = .ok (done ++ r :: rest))
    (hdone : ∀ r ∈ done, e.immediate.refusal? l form requested r = none)
    (hx : e.immediate.refusal? l form requested r = some x) :
    (e.validateAsync form requested patience).2 = .failed x := by
  have hscan : scan (e.asynchronousStep l form requested) 0 (({} : Accumulation).begin)
      (done ++ r :: rest) = _ :=
    scan_eq_of_error (fun r hr => (refusal?_immediate r).symm.trans (hdone r hr))
      ((refusal?_immediate r).symm.trans hx) 0 _
  rw [validateAsync, beginRun_eq _ hl hrules, hscan]

/-- Both runs begin and end once, and show the same in between, up to the order. -/
def ShowAlike (requested : Option String) (outcome : RunOutcome) (events events' : List Event) : Prop :=
  ∃ shown shown', events = .began requested :: shown ++ [.ended outcome] ∧
    events' = .began requested :: shown' ++ [.ended outcome] ∧ shown.Perm shown' ∧
      (∀ group, .began group ∉ shown) ∧ ∀ outcome', .ended outcome' ∉ shown

theorem validateAsync_agrees (h : e.SettlesInTime form requested patience) :
    (e.validateAsync form requested patience).2 =
        .ofResult (e.immediate.validate form requested).2 ∧
      ∀ outcome, (e.validateAsync form requested patience).2 = .finished outcome →
        ∃ l rules, e.locales.current = .ok l ∧ form.rules = .ok rules ∧
          outcome = .ofVerdicts (rules.filterMap (e.immediate.verdict? l form requested)) ∧
            ShowAlike requested outcome (e.validateAsync form requested patience).1
              (e.immediate.validate form requested).1 := by
  cases hl : e.locales.current with
  | error x => simp [validateAsync, validate, beginRun, immediate, hl, RunEnd.ofResult]
  | ok l =>
      have hl' : e.immediate.locales.current = .ok l := hl
      cases hrules : form.rules with
      | error x => simp [validateAsync, validate, beginRun, hl, hl', hrules, RunEnd.ofResult]
      | ok rules =>
          cases hfirst : rules.findSome? (e.immediate.refusal? l form requested) with
          | some x =>
              rcases List.findSome?_eq_some_iff.1 hfirst with ⟨done, r, rest, rfl, hx, hdone⟩
              have hr : (done ++ r :: rest)[done.length]? = some r := by simp
              have hrun := validateAsync_of_refusal patience hl hrules hdone hx
              rw [hrun, validate_eq_of_trace hl' (.refused hrules hr hx (by simpa using hdone))]
              refine ⟨rfl, ?_⟩
              intro outcome houtcome
              cases houtcome
          | none =>
              have hnone := List.findSome?_eq_none_iff.1 hfirst
              rcases validateAsync_of_settlesWithin hl hrules hnone
                (settlesWithin_of_settlesInTime h hrules) with ⟨shown, hperm, hrun⟩
              rw [hrun, validate_eq_of_trace hl' (.finished hrules hnone rfl)]
              refine ⟨rfl, ?_⟩
              intro outcome houtcome
              rcases RunEnd.finished.inj houtcome with rfl
              refine ⟨l, rules, rfl, rfl, rfl, shown, _, rfl, rfl, hperm, ?_, ?_⟩
              · intro group hgroup
                rcases List.mem_flatMap.1 (hperm.subset hgroup) with ⟨r, -, hr⟩
                exact (not_mem_ruleEvents r).1 group hr
              · intro outcome' hended
                rcases List.mem_flatMap.1 (hperm.subset hended) with ⟨r, -, hr⟩
                exact (not_mem_ruleEvents r).2 outcome' hr

/-! ## Runs in which nothing takes time -/

theorem validate_congr (e e' : Engine) (hlocales : e'.locales = e.locales)
    (hvalidators : e'.validators = e.validators) (form : Form) (requested : Option String) :
    e'.validate form requested = e.validate form requested := by
  rcases e with ⟨locales, validators, timeLimit⟩
  rcases e' with ⟨locales', validators', timeLimit'⟩
  obtain rfl : locales' = locales := hlocales
  obtain rfl : validators' = validators := hvalidators
  rfl

/-- The walk of a synchronous run defers nothing. -/
theorem scan_synchronousStep_eq_ok {index : Nat} {a a' : Accumulation} {rules : List Rule}
    {events : List Event} {deferred : List Deferred}
    (h : scan (e.synchronousStep l form requested) index a rules = (events, .ok (a', deferred))) :
    deferred = [] := by
  cases hfirst : rules.findSome? fun r =>
      StepResult.error? (e.synchronousStep l form requested r) with
  | some x =>
      rcases List.findSome?_eq_some_iff.1 hfirst with ⟨done, r, rest, rfl, hx, hdone⟩
      rw [scan_eq_of_error hdone hx] at h
      simp at h
  | none =>
      rw [scan_eq_of_ok (List.findSome?_eq_none_iff.1 hfirst)] at h
      obtain ⟨-, -, rfl⟩ : _ ∧ _ ∧ deferredFrom _ index rules = deferred := by simpa using h
      simp [deferredFrom, deferred?_synchronousStep]

/-- If no asynchronous validator is to be called, an asynchronous run is a synchronous one. -/
theorem validateAsync_of_not_defers (patience : Option Nat)
    (h : ∀ rules, form.rules = .ok rules → ∀ r ∈ rules, ¬e.Defers requested r) :
    e.validateAsync form requested patience =
      ((e.validate form requested).1, .ofResult (e.validate form requested).2) := by
  cases hl : e.locales.current with
  | error x => simp [validateAsync, validate, beginRun, hl, RunEnd.ofResult]
  | ok l =>
      cases hrules : form.rules with
      | error x => simp [validateAsync, validate, beginRun, hl, hrules, RunEnd.ofResult]
      | ok rules =>
          have hstep : ∀ r ∈ rules, e.asynchronousStep l form requested r =
              e.synchronousStep l form requested r := fun r hr =>
            asynchronousStep_of_not_defers (h rules hrules r hr)
          have hscan := scan_congr hstep 0 (({} : Accumulation).begin)
          rw [validateAsync, validate, beginRun_eq _ hl hrules, beginRun_eq _ hl hrules, hscan]
          rcases hs : scan (e.synchronousStep l form requested) 0 (({} : Accumulation).begin) rules
            with ⟨events, x | ⟨a, deferred⟩⟩
          · rfl
          · rcases scan_synchronousStep_eq_ok hs with rfl
            simp [settle, start, await, RunEnd.ofResult]

theorem validate_immediate_of_not_defers
    (h : ∀ rules, form.rules = .ok rules → ∀ r ∈ rules, ¬e.Defers requested r) :
    e.immediate.validate form requested = e.validate form requested := by
  cases hl : e.locales.current with
  | error x => simp [validate, beginRun, immediate, hl]
  | ok l =>
      have hl' : e.immediate.locales.current = .ok l := hl
      cases hrules : form.rules with
      | error x => simp [validate, beginRun, hl, hl', hrules]
      | ok rules =>
          have hstep : ∀ r ∈ rules, e.immediate.synchronousStep l form requested r =
              e.synchronousStep l form requested r := fun r hr =>
            synchronousStep_immediate_of_not_defers (h rules hrules r hr)
          have hscan := scan_congr hstep 0 (({} : Accumulation).begin)
          rw [validate, validate, beginRun_eq _ hl hrules, beginRun_eq _ hl' hrules, hscan]

/-- If every asynchronous validator settles with a decision in time, the run comes to what a synchronous
run comes to in which these validators decide at once, whatever the delays and the limits are; if none is
to be called, it is the synchronous run. -/
theorem validateAsync_eq_immediate {e : Engine} {form : Form} {requested : Option String}
    {patience : Option Nat} (h : e.SettlesInTime form requested patience) :
    (e.validateAsync form requested patience).2 =
        .ofResult (e.immediate.validate form requested).2 ∧
      (∀ outcome, (e.validateAsync form requested patience).2 = .finished outcome →
        ∃ l rules, e.locales.current = .ok l ∧ form.rules = .ok rules ∧
          outcome = .ofVerdicts (rules.filterMap (e.immediate.verdict? l form requested)) ∧
            ShowAlike requested outcome (e.validateAsync form requested patience).1
              (e.immediate.validate form requested).1) ∧
      (∀ (e' : Engine) (patience' : Option Nat), e'.locales = e.locales →
        e'.immediate.validators = e.immediate.validators →
          e'.SettlesInTime form requested patience' →
            (e'.validateAsync form requested patience').2 =
              (e.validateAsync form requested patience).2) ∧
      ((∀ rules, form.rules = .ok rules → ∀ r ∈ rules, ¬e.Defers requested r) →
        e.validateAsync form requested patience =
            ((e.validate form requested).1, .ofResult (e.validate form requested).2) ∧
          e.immediate.validate form requested = e.validate form requested) := by
  rcases validateAsync_agrees h with ⟨hresult, hfinished⟩
  refine ⟨hresult, hfinished, ?_, ?_⟩
  · -- Neither the delays nor the limits are left in the engine that decides at once.
    intro e' patience' hlocales hvalidators h'
    have hsame : e'.immediate.validate form requested = e.immediate.validate form requested :=
      validate_congr e.immediate e'.immediate hlocales hvalidators form requested
    rw [(validateAsync_agrees h').1, hresult, hsame]
  · intro hnone
    exact ⟨validateAsync_of_not_defers patience hnone, validate_immediate_of_not_defers hnone⟩

/-- An engine with a slow validator, a quick one, and one that takes no time. -/
def unhurried : Engine where
  validators := .ofList
    [("slow", .asynchronous fun _ => .settles 10 (.decided (.refused "slow"))),
      ("quick", .asynchronous fun _ => .settles 0 (.decided .accepted)),
      ("plain", .synchronous fun _ => .accepted)]
  timeLimit := some 10

/-- A form that calls all of them. -/
def unhurriedForm : Form where
  controls := []
  validators := ["slow", "plain", "quick"].map fun name =>
    .ofList [("validate", "custom"), ("function", name)]

/-- It takes until the limit, and comes to what it comes to at once. -/
theorem validateAsync_eq_immediate_unhurried :
    (unhurried.validateAsync unhurriedForm none none).2 =
        .ofResult (unhurried.immediate.validate unhurriedForm none).2 ∧
      (unhurried.immediate.validate unhurriedForm none).2 = .ok ⟨false, ["slow"]⟩ := by
  have h : unhurried.SettlesInTime unhurriedForm none none := by
    apply settlesInTime_of_validators
    intro name start value hstart
    simp only [unhurried, NameMap.ofList, List.foldl, NameMap.get?_insert, NameMap.get?_empty] at hstart
    split at hstart
    · cases hstart
    · split at hstart
      · cases hstart
        exact ⟨0, _, rfl, by simp, by simp⟩
      · split at hstart
        · cases hstart
          exact ⟨10, _, rfl, by simp [unhurried], by simp⟩
        · cases hstart
  exact ⟨(validateAsync_eq_immediate h).1, by decide +kernel⟩

end Engine
end FormValidation
