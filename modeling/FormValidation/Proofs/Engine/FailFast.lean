import FormValidation.Proofs.Engine.Asynchronous

/-!
# Asynchronous runs fail fast

The deferred validators of a run settle in the order of precedence, up to the first one that fails.
`Engine.Settling` says which of them are started and which settle, and how the run ends; `settle_spec`
and `validateAsync_failFast` say that every run is of this kind unless it stalls.
-/

namespace FormValidation

/-! ## Kinds of events -/

namespace Event

/-- Whether an event is the call of a validator. -/
def isCalled : Event → Bool
  | .called _ => true
  | _ => false

/-- Whether an event tells a verdict. -/
def isValidated : Event → Bool
  | .validated _ _ => true
  | _ => false

@[simp] theorem isValidated_called (call : Call) : (Event.called call).isValidated = false :=
  rfl

@[simp] theorem isCalled_settled (d : Deferred) : d.settled.isCalled = false :=
  rfl

@[simp] theorem isValidated_settled (d : Deferred) : d.settled.isValidated = true :=
  rfl

end Event

/-- The event at the end of a run, which only a finished run has. -/
def RunEnd.events : RunEnd → List Event
  | .finished outcome => [.ended outcome]
  | _ => []

namespace Engine

variable {patience limit : Option Nat} {deferred started settled others : List Deferred}
  {d : Deferred}

/-- Starting validators calls each of them. -/
theorem filter_isCalled_startEvents (limit : Option Nat) (deferred : List Deferred) :
    (deferred.flatMap (Deferred.startEvents limit)).filter Event.isCalled =
      deferred.map fun d => .called d.call := by
  induction deferred with
  | nil => rfl
  | cons d deferred ih =>
      rw [List.flatMap_cons, List.filter_append, ih, List.map_cons, Deferred.startEvents]
      split <;> rfl

/-- The validators that settle with a decision as soon as they are started. -/
def settlesAtOnce (limit : Option Nat) (deferred : List Deferred) : List Deferred :=
  deferred.filter fun d => d.due? limit = some 0 ∧ d.failure? limit = none

/-- Starting validators sends the verdicts of those that settle at once. -/
theorem filter_isValidated_startEvents (limit : Option Nat) (deferred : List Deferred) :
    (deferred.flatMap (Deferred.startEvents limit)).filter Event.isValidated =
      (settlesAtOnce limit deferred).map Deferred.settled := by
  induction deferred with
  | nil => rfl
  | cons d deferred ih =>
      rw [List.flatMap_cons, List.filter_append, ih, Deferred.startEvents, settlesAtOnce,
        settlesAtOnce, List.filter_cons]
      by_cases h : d.due? limit = some 0 ∧ d.failure? limit = none <;>
        simp [h, List.filter_cons]

/-- The events of deferred validators of which the first list is started and the second one settles. -/
def settlingEvents (limit : Option Nat) (started settled : List Deferred) : List Event :=
  started.flatMap (Deferred.startEvents limit) ++ (waiting limit settled).map Deferred.settled

theorem filter_isCalled_settlingEvents (started settled : List Deferred) :
    (settlingEvents limit started settled).filter Event.isCalled =
      started.map fun d => .called d.call := by
  simp [settlingEvents, filter_isCalled_startEvents]

theorem filter_isValidated_settlingEvents
    (h : settlesAtOnce limit started ++ waiting limit settled = settled) :
    (settlingEvents limit started settled).filter Event.isValidated =
      settled.map Deferred.settled := by
  have hwaiting : ((waiting limit settled).map Deferred.settled).filter Event.isValidated =
      (waiting limit settled).map Deferred.settled :=
    List.filter_eq_self.2 (by simp)
  rw [settlingEvents, List.filter_append, filter_isValidated_startEvents, hwaiting,
    ← List.map_append, h]

/-! ## The first failure -/

/-- In the order of precedence, the validators before the first one that fails are those that precede all
that fail. -/
theorem mem_iff_precedes_failures
    (horder : (settled ++ d :: others).Pairwise (Deferred.Precedes limit))
    (hnone : ∀ d' ∈ settled, d'.failure? limit = none) (hd : d.failure? limit ≠ none)
    (d' : Deferred) :
    d' ∈ settled ↔ d' ∈ settled ++ d :: others ∧
      ∀ d'' ∈ settled ++ d :: others, d''.failure? limit ≠ none → d'.Precedes limit d'' := by
  rcases List.pairwise_append.1 horder with ⟨-, hbehind, hcross⟩
  constructor
  · intro h
    refine ⟨List.mem_append_left _ h, ?_⟩
    intro d'' hd'' hfails
    rcases List.mem_append.1 hd'' with hs | hs
    · exact absurd (hnone d'' hs) hfails
    · exact hcross d' h d'' hs
  · rintro ⟨h, hprecedes⟩
    have hbefore := hprecedes d (by simp) hd
    rcases List.mem_append.1 h with hs | hs
    · exact hs
    · rcases List.mem_cons.1 hs with rfl | hs
      · exact absurd hbefore (Deferred.Precedes.irrefl d')
      · -- What stands behind the first failure does not precede it.
        exact absurd (hbefore.trans (List.rel_of_pairwise_cons hbehind hs))
          (Deferred.Precedes.irrefl d')

/-- The first one that fails precedes all others that fail. -/
theorem eq_or_precedes_of_failure
    (horder : (settled ++ d :: others).Pairwise (Deferred.Precedes limit))
    (hnone : ∀ d' ∈ settled, d'.failure? limit = none) {d' : Deferred}
    (h : d' ∈ settled ++ d :: others) (hfails : d'.failure? limit ≠ none) :
    d' = d ∨ d.Precedes limit d' := by
  rcases List.pairwise_append.1 horder with ⟨-, hbehind, -⟩
  rcases List.mem_append.1 h with hs | hs
  · exact absurd (hnone d' hs) hfails
  · rcases List.mem_cons.1 hs with rfl | hs
    · exact .inl rfl
    · exact .inr (List.rel_of_pairwise_cons hbehind hs)

/-! ## Settling -/

/-- Which deferred validators are started and which settle, and how the run ends. -/
structure Settling (limit : Option Nat) (deferred started settled : List Deferred)
    (ending : RunEnd) : Prop where
  /-- Validators are started in the order of the declarations. -/
  started_sublist : started.Sublist deferred
  /-- All are started, but none behind one that fails at once. -/
  mem_started : ∀ d, d ∈ started ↔ d ∈ deferred ∧ ∀ d' ∈ deferred,
    d'.due? limit = some 0 → d'.failure? limit ≠ none → d.index ≤ d'.index
  /-- Validators settle in the order of precedence. -/
  settled_pairwise : settled.Pairwise (Deferred.Precedes limit)
  /-- All settle that precede those that fail. -/
  mem_settled : ∀ d, d ∈ settled ↔ d ∈ deferred ∧ ∀ d' ∈ deferred,
    d'.failure? limit ≠ none → d.Precedes limit d'
  /-- The run is finished if none fails. -/
  finished_iff : (∃ outcome, ending = .finished outcome) ↔ ∀ d ∈ deferred, d.failure? limit = none
  /-- It fails with the error of the failing one that precedes all others that fail. -/
  failed_iff : ∀ x, ending = .failed x ↔ ∃ d ∈ deferred, d.failure? limit = some x ∧
    ∀ d' ∈ deferred, d'.failure? limit ≠ none → d' = d ∨ d.Precedes limit d'

theorem Settling.of_failure {x : Error} (hperm : (settled ++ d :: others).Perm deferred)
    (horder : (settled ++ d :: others).Pairwise (Deferred.Precedes limit))
    (hnone : ∀ d' ∈ settled, d'.failure? limit = none) (hx : d.failure? limit = some x)
    (hsub : started.Sublist deferred)
    (hstarted : ∀ d, d ∈ started ↔ d ∈ deferred ∧ ∀ d' ∈ deferred,
      d'.due? limit = some 0 → d'.failure? limit ≠ none → d.index ≤ d'.index) :
    Settling limit deferred started settled (.failed x) := by
  have hfails : d.failure? limit ≠ none := by simp [hx]
  have hd : d ∈ deferred := hperm.subset (by simp)
  refine ⟨hsub, hstarted, (List.pairwise_append.1 horder).1, ?_, ?_, ?_⟩
  · -- The order of precedence is a rearrangement, so membership may be read there.
    intro d'
    rw [mem_iff_precedes_failures horder hnone hfails d']
    simp only [hperm.mem_iff]
  · constructor
    · rintro ⟨outcome, h⟩
      cases h
    · intro h
      exact absurd (h d hd) hfails
  · intro y
    constructor
    · intro h
      cases h
      exact ⟨d, hd, hx, fun d' hd' h' =>
        eq_or_precedes_of_failure horder hnone (hperm.symm.subset hd') h'⟩
    · rintro ⟨d', hd', hy, hleast⟩
      -- Each of the two precedes the other one unless they are the same.
      obtain rfl : d' = d := by
        rcases eq_or_precedes_of_failure horder hnone (hperm.symm.subset hd') (by simp [hy])
          with rfl | h
        · rfl
        · rcases hleast d hd hfails with rfl | h'
          · rfl
          · exact absurd (h.trans h') (Deferred.Precedes.irrefl d)
      rw [hx] at hy
      rw [Option.some.inj hy]

theorem Settling.of_none {outcome : RunOutcome} (hperm : settled.Perm deferred)
    (horder : settled.Pairwise (Deferred.Precedes limit))
    (hnone : ∀ d ∈ deferred, d.failure? limit = none) :
    Settling limit deferred deferred settled (.finished outcome) := by
  refine ⟨List.Sublist.refl deferred, ?_, horder, ?_, ⟨fun _ => hnone, fun _ => ⟨_, rfl⟩⟩, ?_⟩
  · intro d
    exact ⟨fun h => ⟨h, fun d' hd' _ h' => absurd (hnone d' hd') h'⟩, fun h => h.1⟩
  · intro d
    exact ⟨fun h => ⟨hperm.subset h, fun d' hd' h' => absurd (hnone d' hd') h'⟩,
      fun h => hperm.symm.subset h.1⟩
  · intro x
    constructor
    · intro h
      cases h
    · rintro ⟨d, hd, hx, -⟩
      simp [hnone d hd] at hx

/-! ## Starting and waiting -/

theorem waiting_prompt_append {done : List Deferred} (h : ∀ d ∈ done, d.due? limit ≠ some 0) :
    waiting limit (prompt limit deferred ++ done) = done := by
  have hprompt : waiting limit (prompt limit deferred) = [] := by
    simp [waiting, prompt]
  have hdone : waiting limit done = done := by
    simpa [waiting] using h
  rw [waiting, List.filter_append]
  exact congrArg₂ (· ++ ·) hprompt hdone

/-- A validator that fails at once ends the run. -/
theorem settling_of_failure_at_once {done rest : List Deferred} {x : Error}
    (hindex : (done ++ d :: rest).Pairwise fun d d' => d.index < d'.index)
    (hdone : ∀ d ∈ done, d.due? limit = some 0 → d.failure? limit = none)
    (hdue : d.due? limit = some 0) (hx : d.failure? limit = some x) :
    Settling limit (done ++ d :: rest) (done ++ [d]) (prompt limit done) (.failed x) := by
  have hsplit : prompt limit done ++ d :: (prompt limit rest ++ queue limit (done ++ d :: rest)) =
      prompt limit (done ++ d :: rest) ++ queue limit (done ++ d :: rest) := by
    simp [prompt, hdue]
  have hfails : d.failure? limit ≠ none := by simp [hx]
  rcases List.pairwise_append.1 hindex with ⟨-, hbehind, hcross⟩
  have hprompt : ∀ d' ∈ prompt limit done, d'.failure? limit = none := by
    intro d' hd'
    rcases mem_prompt.1 hd' with ⟨hmem, h0⟩
    exact hdone d' hmem h0
  refine Settling.of_failure (hsplit ▸ perm_prompt_append_queue limit _)
    (hsplit ▸ pairwise_prompt_append_queue limit hindex) hprompt hx (by simp) ?_
  intro d'
  constructor
  · intro h
    refine ⟨by simp at h ⊢; tauto, ?_⟩
    intro d'' hd'' hdue'' hfails''
    -- None of those declared before fails at once, so another such failure is declared later.
    have hd'' : d'' ∈ d :: rest := (List.mem_append.1 hd'').resolve_left fun hs =>
      hfails'' (hdone d'' hs hdue'')
    rcases List.mem_append.1 h with hs | hs
    · exact (hcross d' hs d'' hd'').le
    · rcases List.mem_singleton.1 hs with rfl
      rcases List.mem_cons.1 hd'' with rfl | hd''
      · exact Nat.le_refl _
      · exact (List.rel_of_pairwise_cons hbehind hd'').le
  · -- What is declared behind the failure is not started.
    rintro ⟨h, hbefore⟩
    have hle := hbefore d (by simp) hdue hfails
    rcases List.mem_append.1 h with hs | hs
    · exact List.mem_append_left _ hs
    · rcases List.mem_cons.1 hs with rfl | hs
      · simp
      · exact absurd (List.rel_of_pairwise_cons hbehind hs) (Nat.not_lt.2 hle)

theorem settlesAtOnce_eq_prompt
    (h : ∀ d ∈ deferred, d.due? limit = some 0 → d.failure? limit = none) :
    settlesAtOnce limit deferred = prompt limit deferred := by
  apply List.filter_congr
  intro d hd
  simpa using h d hd

/-- If no validator fails at once, all are started; then those that wait settle up to the first one that
fails. -/
theorem settling_of_await (hindex : deferred.Pairwise fun d d' => d.index < d'.index)
    (hdeferred : ∀ d ∈ deferred, d.due? limit = some 0 → d.failure? limit = none)
    (a : Accumulation) (hrun : (await patience limit a (queue limit deferred)).2 ≠ .stalled) :
    ∃ done, (∀ d ∈ done, d.due? limit ≠ some 0) ∧
      (await patience limit a (queue limit deferred)).1 = done.map Deferred.settled ++
        (await patience limit a (queue limit deferred)).2.events ∧
      Settling limit deferred deferred (prompt limit deferred ++ done)
        (await patience limit a (queue limit deferred)).2 := by
  have hqueue : ∀ d ∈ queue limit deferred, d.due? limit ≠ some 0 := fun d hd => (mem_queue.1 hd).2
  have hprompt : ∀ d ∈ prompt limit deferred, d.failure? limit = none := by
    intro d hd
    rcases mem_prompt.1 hd with ⟨hmem, hdue⟩
    exact hdeferred d hmem hdue
  have hperm := perm_prompt_append_queue limit deferred
  have horder := pairwise_prompt_append_queue limit hindex
  -- The first one in the queue that does not settle ends the run, if there is one.
  rcases forall_or_exists_first (Deferred.SettlesWithin patience limit) (queue limit deferred) with
    hall | ⟨done, d, rest, hsplit, hsettle, hnot⟩
  · have hawait := await_append hall [] a
    simp only [List.append_nil, await] at hawait
    have hsettled : ∀ d ∈ prompt limit deferred ++ queue limit deferred, d.failure? limit = none :=
      List.forall_mem_append.2 ⟨hprompt, fun d hd => (hall d hd).failure?_eq_none⟩
    have hnone : ∀ d ∈ deferred, d.failure? limit = none :=
      fun d hd => hsettled d (hperm.symm.subset hd)
    exact ⟨queue limit deferred, hqueue, by rw [hawait]; rfl,
      hawait ▸ Settling.of_none hperm horder hnone⟩
  · rw [hsplit] at hqueue hperm horder hrun ⊢
    rcases await_of_not_settles hsettle hnot a with h | ⟨x, hx, h⟩
    · exact absurd (by rw [h]) hrun
    · refine ⟨done, fun d' hd' => hqueue d' (by simp [hd']), by rw [h]; simp [RunEnd.events], ?_⟩
      rw [← List.append_assoc] at hperm horder
      have hnone : ∀ d' ∈ prompt limit deferred ++ done, d'.failure? limit = none :=
        List.forall_mem_append.2 ⟨hprompt, fun d' hd' => (hsettle d' hd').failure?_eq_none⟩
      rw [h]
      refine Settling.of_failure hperm horder hnone hx (List.Sublist.refl _) fun d' =>
        ⟨fun hd' => ⟨hd', fun d'' hd'' h0 hfails => absurd (hdeferred d'' hd'' h0) hfails⟩,
          fun hd' => hd'.1⟩

/-- Unless it stalls, a run starts validators and waits for them as `Settling` says. -/
theorem settle_spec (hindex : deferred.Pairwise fun d d' => d.index < d'.index) (a : Accumulation)
    (hrun : (settle patience limit a deferred).2 ≠ .stalled) :
    ∃ started settled, Settling limit deferred started settled (settle patience limit a deferred).2 ∧
      settlesAtOnce limit started ++ waiting limit settled = settled ∧
        (settle patience limit a deferred).1 = settlingEvents limit started settled ++
          (settle patience limit a deferred).2.events := by
  -- Whether some validator fails at once decides whether it comes to waiting.
  rcases forall_or_exists_failure_at_once limit deferred with hnone | ⟨done, d, rest, x, rfl, hnone, hdue, hx⟩
  · rw [settle_eq_await hnone] at hrun ⊢
    rcases settling_of_await hindex hnone _ hrun with ⟨done, hdone, hevents, hsettling⟩
    have hwaiting : waiting limit (prompt limit deferred ++ done) = done :=
      waiting_prompt_append hdone
    refine ⟨_, _, hsettling, by rw [settlesAtOnce_eq_prompt hnone, hwaiting], ?_⟩
    rw [settlingEvents, hwaiting, List.append_assoc, ← hevents]
  · have hwaiting : waiting limit (prompt limit done) = [] := by simp [waiting, prompt]
    have hatOnce : settlesAtOnce limit (done ++ [d]) = prompt limit done := by
      rw [settlesAtOnce, List.filter_append, ← settlesAtOnce_eq_prompt hnone]
      simp [settlesAtOnce, hx]
    rw [settle_of_failure hnone hdue hx]
    refine ⟨_, _, settling_of_failure_at_once hindex hnone hdue hx, by simp [hatOnce, hwaiting], ?_⟩
    simp [settlingEvents, hwaiting, Deferred.startEvents, hx, RunEnd.events]

/-! ## Runs -/

/-- Unless it stalls, an asynchronous run whose walk meets no error fails exactly if some validator does:
then with the error of the failing one that precedes all others, after the verdicts of those that precede
it, in the order of precedence, and with no event at its end. -/
theorem validateAsync_failFast {e : Engine} {l : Locale} {form : Form} {requested : Option String}
    {rules : List Rule} (patience : Option Nat) (hl : e.locales.current = .ok l)
    (hrules : form.rules = .ok rules)
    (hscan : ∀ r ∈ rules, StepResult.error? (e.asynchronousStep l form requested r) = none)
    (hrun : (e.validateAsync form requested patience).2 ≠ .stalled) :
    ∃ started settled tail,
      Settling e.timeLimit (e.deferrals form requested rules) started settled
        (e.validateAsync form requested patience).2 ∧
      (e.validateAsync form requested patience).1 =
        .began requested :: rules.flatMap (e.ruleEvents l form requested) ++ tail ++
          (e.validateAsync form requested patience).2.events ∧
      tail = settlingEvents e.timeLimit started settled ∧
      tail.filter Event.isValidated = settled.map Deferred.settled ∧
      tail.filter Event.isCalled = started.map fun d => .called d.call := by
  have hindex : (e.deferrals form requested rules).Pairwise fun d d' => d.index < d'.index :=
    deferredFrom_asynchronousStep hscan ▸ pairwise_deferredFrom _ 0 rules
  rw [validateAsync_eq_settle patience hl hrules hscan] at hrun ⊢
  rcases settle_spec hindex _ hrun with ⟨started, settled, hsettling, hatOnce, hevents⟩
  refine ⟨started, settled, _, hsettling, ?_, rfl, filter_isValidated_settlingEvents hatOnce,
    filter_isCalled_settlingEvents started settled⟩
  simp only [hevents, List.append_assoc]

/-- An engine whose validators settle at once, at the time limit, or not at all. -/
def racing : Engine where
  validators := .ofList
    [("edge", .asynchronous fun _ => .settles 10 (.decided .accepted)),
      ("prompt", .asynchronous fun _ => .settles 0 (.decided (.refused "no"))),
      ("silent", .asynchronous fun _ => .never),
      ("late", .asynchronous fun _ => .settles 10 (.rejected "down"))]
  timeLimit := some 10

/-- A form that calls all of them. -/
def racingForm : Form where
  controls := []
  validators := ["edge", "prompt", "silent", "late"].map fun name =>
    .ofList [("validate", "custom"), ("function", name)]

/-- The silent validator decides the error: the one that settles at the limit is in time, and the one
that rejects at the limit is declared later. -/
theorem validateAsync_failFast_racing :
    ∃ rules started settled, racingForm.rules = .ok rules ∧
      Settling (some 10) (racing.deferrals racingForm none rules) started settled
        (racing.validateAsync racingForm none none).2 ∧
      (racing.validateAsync racingForm none none).2 = .failed (.timedOut "silent" 10) := by
  obtain ⟨rules, hnames⟩ : ∃ rules, rules = ["edge", "prompt", "silent", "late"].map fun name =>
      ({ kind := .custom, function := some name } : Rule) := ⟨_, rfl⟩
  have hrules : racingForm.rules = .ok rules := by
    subst hnames
    decide +kernel
  have hscan : ∀ r ∈ rules,
      StepResult.error? (racing.asynchronousStep .enUS racingForm none r) = none := by
    subst hnames
    decide +kernel
  have hrun : (racing.validateAsync racingForm none none).2 ≠ .stalled :=
    validateAsync_ne_stalled rfl (by simp) racingForm none
  rcases validateAsync_failFast none rfl hrules hscan hrun with ⟨started, settled, tail, hsettling, -⟩
  refine ⟨rules, started, settled, hrules, hsettling, (hsettling.failed_iff _).2 ?_⟩
  have hdeferrals : racing.deferrals racingForm none rules =
      [⟨0, none, ⟨"edge", none⟩, .settles 10 (.decided .accepted)⟩,
        ⟨1, none, ⟨"prompt", none⟩, .settles 0 (.decided (.refused "no"))⟩,
        ⟨2, none, ⟨"silent", none⟩, .never⟩,
        ⟨3, none, ⟨"late", none⟩, .settles 10 (.rejected "down")⟩] := by
    subst hnames
    decide +kernel
  rw [hdeferrals]
  refine ⟨⟨2, none, ⟨"silent", none⟩, .never⟩, by simp, rfl, ?_⟩
  simp [Deferred.Precedes, Deferred.due?, Deferred.failure?, Deferred.outOfTime?, Deferred.rejection?,
    racing]

end Engine
end FormValidation
