import FormValidation.Rule.Evaluation

/-!
# What the evaluation of a rule gives

A rule that passes its declaration check is about the control that it names (`checkDeclaration_eq_ok`).
Its verdict is about that control, and the only validator that is called on the way is the one that the
rule names, with the value of that control (`Rule.call?`).
-/

namespace FormValidation

theorem bind_eq_ok {ε α β : Type} {x : Except ε α} {f : α → Except ε β} {b : β} :
    (x >>= f) = .ok b ↔ ∃ a, x = .ok a ∧ f a = .ok b := by
  cases x with
  | error e => simp [bind, Except.bind]
  | ok a => simp [bind, Except.bind]

theorem bind_congr_of_eq_ok {α β : Type} {x : Except Error α} {f g : α → Except Error β}
    (h : ∀ a, x = .ok a → f a = g a) : (x >>= f) = (x >>= g) := by
  cases x with
  | error e => rfl
  | ok a => exact h a rfl

namespace Form

/-- Whether an id stands for a control. -/
def Has (form : Form) (id : String) : Prop :=
  ∃ c, form.control? id = some c

variable {form : Form} {id : String}

/-- A control is resolved to itself, if it is there. -/
theorem resolve_eq_ok_iff {id' : String} : form.resolve id = .ok id' ↔ form.Has id ∧ id' = id := by
  constructor
  · intro h
    unfold resolve at h
    cases hc : form.control? id with
    | none => simp [hc] at h
    | some c =>
        have hid : c.id = id := by simpa using List.find?_some hc
        exact ⟨⟨c, hc⟩, by simpa [hc, hid, eq_comm] using h⟩
  · rintro ⟨⟨c, hc⟩, rfl⟩
    have hid : c.id = id' := by simpa using List.find?_some hc
    simp [resolve, hc, hid]

theorem mapM_resolve_eq_ok_iff {control control' : Option String} :
    control.mapM form.resolve = .ok control' ↔
      (∀ id, control = some id → form.Has id) ∧ control' = control := by
  cases control with
  | none => simp [pure, Except.pure, eq_comm]
  | some id =>
      rw [Option.mapM_some, map_eq_pure_bind, bind_eq_ok]
      simp only [resolve_eq_ok_iff, pure, Except.pure, Except.ok.injEq, Option.some.injEq]
      constructor
      · rintro ⟨id', ⟨hid, rfl⟩, rfl⟩
        exact ⟨fun _ h => h ▸ hid, rfl⟩
      · rintro ⟨hid, rfl⟩
        exact ⟨id, ⟨hid id rfl, rfl⟩, rfl⟩

end Form

namespace Rule

variable {form : Form} {r : Rule}

/-! ## Declarations -/

/-- A checked rule is about the control that it names. -/
theorem checkDeclaration_eq_ok {control : Option String}
    (h : r.checkDeclaration form = .ok control) : control = r.control := by
  rcases bind_eq_ok.1 h with ⟨-, -, h⟩
  rcases bind_eq_ok.1 h with ⟨control', hcontrol, h⟩
  rcases bind_eq_ok.1 h with ⟨-, -, h⟩
  have hsame := (Form.mapM_resolve_eq_ok_iff.1 hcontrol).2
  simpa [hsame, eq_comm, pure, Except.pure] using h

/-! ## Calls -/

/-- The value of the control that a rule names, `none` if it names none. -/
def value? (form : Form) (r : Rule) : Except Error (Option String) :=
  r.control.mapM form.read

/-- The call of the validator that a custom rule names, with the value of the control that it names. -/
def call? (form : Form) (r : Rule) : Option Call :=
  if r.kind = .custom then
    match r.function, r.value? form with
    | some name, .ok value => some ⟨name, value⟩
    | _, _ => none
  else none

theorem validator_eq_ok {registry : Registry} {name : String} {validator : CustomValidator}
    (h : r.validator registry = .ok (name, validator)) :
    r.function = some name ∧ registry.get? name = some validator := by
  unfold Rule.validator at h
  cases hf : r.function with
  | none => simp [hf] at h
  | some n =>
      cases hv : registry.get? n with
      | none => simp [hf, hv] at h
      | some v =>
          obtain ⟨rfl, rfl⟩ : n = name ∧ v = validator := by simpa [hf, hv] using h
          exact ⟨rfl, hv⟩

/-! ## Evaluation -/

variable {l : Locale} {registry : Registry} {evaluation : Evaluation}

theorem delegate_eq_ok {control : Option String}
    (h : r.delegate registry form control = .ok evaluation) :
    ∃ name decide value, r.function = some name ∧ registry.get? name = some (.synchronous decide) ∧
      control.mapM form.read = .ok value ∧
        evaluation = ⟨.ofDecision (decide value) control, some ⟨name, value⟩⟩ := by
  rcases bind_eq_ok.1 h with ⟨⟨name, validator⟩, hv, h⟩
  rcases validator_eq_ok hv with ⟨hname, hget⟩
  cases validator with
  | asynchronous start => simp at h
  | synchronous decide =>
      rcases bind_eq_ok.1 h with ⟨value, hvalue, h⟩
      refine ⟨name, decide, value, hname, hget, hvalue, ?_⟩
      simpa [eq_comm, pure, Except.pure] using h

/-- The verdict of a checked rule is about the control that it names, and the validator called is the one
that the rule names. -/
theorem evaluateOn_eq_ok (h : r.evaluateOn l registry form r.control = .ok evaluation) :
    evaluation.verdict.control = r.control ∧ evaluation.call = r.call? form := by
  unfold evaluateOn at h
  by_cases hk : r.kind = .custom
  · -- The validator decides about the value that was read.
    rw [if_pos hk] at h
    rcases delegate_eq_ok h with ⟨name, decide, value, hname, -, hvalue, rfl⟩
    simp [call?, value?, hk, hname, hvalue, Verdict.ofDecision]
  · -- A check calls nothing.
    rw [if_neg hk] at h
    rcases bind_eq_ok.1 h with ⟨passed, -, h⟩
    obtain rfl : Evaluation.mk (.ofCheck r passed r.control) none = evaluation := by
      simpa [pure, Except.pure] using h
    simp [call?, hk, Verdict.ofCheck]

/-- The validator that an evaluation calls is a synchronous one. -/
theorem synchronous_of_evaluateOn {control : Option String} {call : Call}
    (h : r.evaluateOn l registry form control = .ok evaluation) (hcall : evaluation.call = some call) :
    ∃ decide, registry.get? call.name = some (.synchronous decide) := by
  unfold evaluateOn at h
  by_cases hk : r.kind = .custom
  · rw [if_pos hk] at h
    rcases delegate_eq_ok h with ⟨name, decide, value, -, hget, -, rfl⟩
    rcases Option.some.inj hcall with rfl
    exact ⟨decide, hget⟩
  · rw [if_neg hk] at h
    rcases bind_eq_ok.1 h with ⟨passed, -, h⟩
    cases h
    cases hcall

/-- Evaluating a rule checks its declaration first. -/
theorem evaluate_of_checkDeclaration {control : Option String}
    (h : r.checkDeclaration form = .ok control) :
    r.evaluate l registry form = r.evaluateOn l registry form r.control := by
  rw [evaluate, h, checkDeclaration_eq_ok h]
  rfl

end Rule
end FormValidation
