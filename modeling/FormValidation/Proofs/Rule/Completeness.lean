import FormValidation.Proofs.Rule.Reading

/-!
# What a declaration check leaves open

A rule passes its declaration check exactly if it declares what its kind needs and the form has the controls
that it names (`checkDeclaration_eq_ok_iff`); else the check says what is not there
(`failsOnly_checkDeclaration`).  A rule that passed may still fail to be evaluated, for one of the reasons that
`Rule.Unevaluable` lists (`failsOnly_evaluateOn`).  Only one of these is that something is not there: the check
does not ask a regexp rule for its pattern (`evaluate_lacks_iff`).
-/

namespace FormValidation

/-! ## Computations that may fail -/

/-- All errors that a computation may end with are of a kind. -/
def FailsOnly {α : Type} (P : Error → Prop) (x : Except Error α) : Prop :=
  ∀ e, x = .error e → P e

namespace FailsOnly

variable {α β : Type} {P Q : Error → Prop}

theorem ok (a : α) : FailsOnly P (.ok a) := by
  intro e h
  cases h

theorem error {e : Error} (h : P e) : FailsOnly P (.error e : Except Error α) := by
  intro e' h'
  cases h'
  exact h

/-- The second computation may rely on what the first one gave. -/
theorem bind {x : Except Error α} {f : α → Except Error β} (hx : FailsOnly P x)
    (hf : ∀ a, x = .ok a → FailsOnly P (f a)) : FailsOnly P (x >>= f) := by
  intro e h
  cases x with
  | error e' =>
      cases h
      exact hx _ rfl
  | ok a => exact hf a rfl e h

theorem ite {p : Prop} [Decidable p] {x y : Except Error α} (hx : p → FailsOnly P x)
    (hy : ¬p → FailsOnly P y) : FailsOnly P (if p then x else y) := by
  split
  · exact hx ‹p›
  · exact hy ‹¬p›

theorem option_mapM {f : α → Except Error β} {o : Option α} (hf : ∀ a, o = some a → FailsOnly P (f a)) :
    FailsOnly P (o.mapM f) := by
  cases o with
  | none => exact ok none
  | some a =>
      rw [Option.mapM_some, map_eq_pure_bind]
      exact (hf a rfl).bind fun b _ => ok (some b)

theorem list_mapM {f : α → Except Error β} {l : List α} (hf : ∀ a ∈ l, FailsOnly P (f a)) :
    FailsOnly P (l.mapM f) := by
  induction l with
  | nil => exact ok []
  | cons a l ih =>
      have hrest := ih fun a ha => hf a (List.mem_cons_of_mem _ ha)
      rw [List.mapM_cons]
      exact (hf a List.mem_cons_self).bind fun b _ => hrest.bind fun bs _ => ok (b :: bs)

theorem imp {x : Except Error α} (hx : FailsOnly P x) (h : ∀ e, P e → Q e) : FailsOnly Q x :=
  fun e he => h e (hx e he)

end FailsOnly

/-- Whether an error says that an attribute or a control is not there. -/
def Error.isOfLack : Error → Bool
  | .missingAttribute _ _ | .controlNotFound _ => true
  | _ => false

/-- All errors of a computation say that an attribute or a control is not there. -/
abbrev LacksOnly {α : Type} (x : Except Error α) : Prop :=
  FailsOnly (·.isOfLack = true) x

/-! ## Controls -/

namespace Form

variable {form : Form} {id : String}

theorem discard_resolve_eq_ok_iff {u : Unit} : discard (form.resolve id) = .ok u ↔ form.Has id := by
  unfold resolve Has
  cases form.control? id with
  | none =>
      constructor
      · intro h
        cases h
      · rintro ⟨c, hc⟩
        cases hc
  | some c => exact ⟨fun _ => ⟨c, rfl⟩, fun _ => rfl⟩

theorem lacksOnly_resolve (form : Form) (id : String) : LacksOnly (form.resolve id) := by
  unfold resolve
  cases form.control? id with
  | none => exact .error rfl
  | some c => exact .ok c.id

/-- Only an element of another kind has no value. -/
theorem failsOnly_read (hid : form.Has id) :
    FailsOnly (fun x => ∃ tag, x = .unsupportedElement id tag) (form.read id) := by
  rcases hid with ⟨c, hc⟩
  unfold read
  rw [hc]
  show FailsOnly _ (c.element.read id)
  cases c.element with
  | other name => exact .error ⟨name, rfl⟩
  | input type value checked => exact .ok _
  | textarea value => exact .ok _
  | select options => exact .ok _

end Form

/-! ## Complete declarations -/

/-- A comparison has an operand, and a range an upper bound; the form has the control that is compared
with. -/
structure Comparison.Declared (form : Form) (c : Comparison) : Prop where
  operand : c.operand ≠ none
  resolved : ∀ id, c.operand = some (.control id) → form.Has id
  max : c.operator = .range → c.max ≠ none

namespace Rule

/-- A rule declares what its kind needs, apart from the pattern of a regexp rule, and the form has the
controls that it names. -/
structure Declared (form : Form) (r : Rule) : Prop where
  function : r.kind = .custom → r.function ≠ none
  message : r.kind ≠ .custom → r.message ≠ none
  control : r.kind ≠ .custom → r.control ≠ none
  resolved : ∀ id, r.control = some id → form.Has id
  comparison : r.kind.valueKind? ≠ none → ∀ c, r.comparison = some c → c.Declared form

variable {form : Form} {r : Rule}

theorem checkNeeded_eq_ok_iff {u : Unit} : r.checkNeeded = .ok u ↔
    (r.kind = .custom → r.function ≠ none) ∧
      (r.kind ≠ .custom → r.message ≠ none ∧ r.control ≠ none) := by
  unfold checkNeeded
  by_cases hk : r.kind = .custom
  · cases r.function <;> simp [hk]
  · cases r.message <;> cases r.control <;> simp [hk]

theorem checkComparison_eq_ok_iff {u : Unit} : r.checkComparison form = .ok u ↔
    (r.kind.valueKind? ≠ none → ∀ c, r.comparison = some c → c.Declared form) := by
  unfold checkComparison
  cases r.kind.valueKind? with
  | none => simp
  | some kind =>
      cases r.comparison with
      | none => simp
      | some c =>
          have hmax : (if c.operator = .range ∧ c.max = none then
                Except.error (r.missing "comparemaxvalue") else .ok ()) = .ok u ↔
              (c.operator = .range → c.max ≠ none) := by
            simp
          simp only [ne_eq, reduceCtorEq, not_false_eq_true, forall_const, Option.some.injEq, forall_eq']
          rcases hoperand : c.operand with _ | text | id
          · -- Without an operand the check fails.
            constructor
            · intro h
              cases h
            · intro h
              exact absurd hoperand h.operand
          · constructor
            · intro h
              exact ⟨by simp [hoperand], by simp [hoperand], hmax.1 h⟩
            · intro h
              exact hmax.2 h.max
          · -- A control to compare with has to be there.
            rw [bind_eq_ok]
            constructor
            · rintro ⟨_, hid, h⟩
              refine ⟨by simp [hoperand], ?_, hmax.1 h⟩
              intro id' hid'
              obtain rfl : id = id' := by simpa [hoperand] using hid'
              exact Form.discard_resolve_eq_ok_iff.1 hid
            · intro h
              exact ⟨(), Form.discard_resolve_eq_ok_iff.2 (h.resolved id hoperand), hmax.2 h.max⟩

/-- Exactly complete declarations pass their check, which gives the control that the rule names. -/
theorem checkDeclaration_eq_ok_iff {control : Option String} :
    r.checkDeclaration form = .ok control ↔ r.Declared form ∧ control = r.control := by
  unfold checkDeclaration
  simp only [bind_eq_ok, checkNeeded_eq_ok_iff, Form.mapM_resolve_eq_ok_iff, checkComparison_eq_ok_iff]
  constructor
  · rintro ⟨-, ⟨hfunction, hneeded⟩, control', ⟨hresolved, rfl⟩, -, hcomparison, h⟩
    exact ⟨⟨hfunction, fun hk => (hneeded hk).1, fun hk => (hneeded hk).2, hresolved, hcomparison⟩,
      (Except.ok.inj h).symm⟩
  · rintro ⟨h, rfl⟩
    exact ⟨(), ⟨h.function, fun hk => ⟨h.message hk, h.control hk⟩⟩, _, ⟨h.resolved, rfl⟩, (),
      h.comparison, rfl⟩

theorem lacksOnly_checkNeeded (r : Rule) : LacksOnly r.checkNeeded := by
  refine .ite (fun _ => ?_) (fun _ => ?_)
  · exact .ite (fun _ => .error rfl) (fun _ => .ok ())
  · exact .ite (fun _ => .error rfl) fun _ => .ite (fun _ => .error rfl) (fun _ => .ok ())

theorem lacksOnly_checkComparison (form : Form) (r : Rule) : LacksOnly (r.checkComparison form) := by
  unfold checkComparison
  split
  · rename_i c _ _
    have hmax : LacksOnly (if c.operator = .range ∧ c.max = none
        then .error (r.missing "comparemaxvalue") else .ok ()) :=
      .ite (fun _ => .error rfl) (fun _ => .ok ())
    rcases c.operand with _ | text | id
    · exact .error rfl
    · exact hmax
    · have hcontrol : LacksOnly (discard (form.resolve id)) :=
        (form.lacksOnly_resolve id).bind fun _ _ => .ok ()
      exact hcontrol.bind fun _ _ => hmax
  · exact .ok ()

/-- A declaration that does not pass its check lacks an attribute or a control. -/
theorem lacksOnly_checkDeclaration (form : Form) (r : Rule) : LacksOnly (r.checkDeclaration form) := by
  refine r.lacksOnly_checkNeeded.bind fun _ _ => ?_
  refine (FailsOnly.option_mapM fun id _ => form.lacksOnly_resolve id).bind fun control _ => ?_
  exact (lacksOnly_checkComparison form r).bind fun _ _ => .ok control

/-! ## Rules that cannot be evaluated -/

/-- Why the controls that a rule names cannot be read: one is an element without a value. -/
inductive Unreadable (form : Form) (r : Rule) : Error → Prop where
  | unsupported {id tag : String} (hid : id ∈ r.references)
      (hread : form.read id = .error (.unsupportedElement id tag)) :
      Unreadable form r (.unsupportedElement id tag)

/-- Why a rule whose declaration is complete cannot be evaluated. -/
inductive Unevaluable (registry : Registry) (form : Form) (r : Rule) : Error → Prop where
  | unpatterned (hk : r.kind = .regexp) (hpattern : r.pattern = none) :
      Unevaluable registry form r (r.missing "pattern")
  | unparsable {source : String} (hk : r.kind = .regexp) (hpattern : r.pattern = some source)
      (hread : Pattern.read? source = none) : Unevaluable registry form r (.invalidPattern source)
  | unreadable {x : Error} (h : r.Unreadable form x) : Unevaluable registry form r x
  | unregistered {name : String} (hk : r.kind = .custom) (hname : r.function = some name)
      (hget : registry.get? name = none) : Unevaluable registry form r (.unregisteredValidator name)
  /-- The validator would take time. -/
  | asynchronous {name : String} {start : Option String → Course} (hk : r.kind = .custom)
      (hname : r.function = some name) (hget : registry.get? name = some (.asynchronous start)) :
      Unevaluable registry form r (.asynchronousInSynchronousRun name)

variable {l : Locale} {registry : Registry}

theorem mem_references_control {id : String} (h : r.control = some id) : id ∈ r.references := by
  simp [references, h]

theorem mem_references_operand {c : Comparison} {id : String} (hc : r.comparison = some c)
    (h : c.operand = some (.control id)) : id ∈ r.references := by
  simp [references, hc, Comparison.control?, h]

/-- Reading a control that the rule names fails only if the control has no value. -/
theorem failsOnly_read {id : String} (hid : id ∈ r.references) (hhas : form.Has id) :
    FailsOnly (r.Unreadable form) (form.read id) := by
  intro x hx
  rcases Form.failsOnly_read hhas x hx with ⟨tag, rfl⟩
  exact .unsupported hid hx

namespace Declared

theorem failsOnly_readValue (h : r.Declared form) (hk : r.kind ≠ .custom) :
    FailsOnly (r.Unevaluable registry form) (r.readValue form r.control) := by
  rcases Option.ne_none_iff_exists'.1 (h.control hk) with ⟨id, hid⟩
  rw [hid]
  exact (failsOnly_read (mem_references_control hid) (h.resolved id hid)).imp fun _ => .unreadable

/-- Only here does the evaluation ask for something that the check does not ask for. -/
theorem failsOnly_matchesPattern (h : r.Declared form) (hk : r.kind = .regexp) :
    FailsOnly (r.Unevaluable registry form) (r.matchesPattern form r.control) := by
  unfold matchesPattern
  split
  · exact .error (.unpatterned hk ‹_›)
  · rename_i source hpattern
    split
    · exact .error (.unparsable hk hpattern ‹_›)
    · exact (h.failsOnly_readValue (by simp [hk])).bind fun _ _ => .ok _

theorem failsOnly_operandText (h : r.Declared form) (hk : r.kind.valueKind? ≠ none) {c : Comparison}
    (hc : r.comparison = some c) : FailsOnly (r.Unevaluable registry form) (r.operandText form c) := by
  have hdeclared := h.comparison hk c hc
  unfold operandText
  rcases hoperand : c.operand with _ | text | id
  · exact absurd hoperand hdeclared.operand
  · exact .ok text
  · have hhas := hdeclared.resolved id hoperand
    have hresolve : form.resolve id = .ok id := Form.resolve_eq_ok_iff.2 ⟨hhas, rfl⟩
    show FailsOnly _ (form.resolve id >>= form.read)
    rw [hresolve]
    exact (failsOnly_read (mem_references_operand hc hoperand) hhas).imp fun _ => .unreadable

theorem failsOnly_matchesKind (h : r.Declared form) {kind : ValueKind}
    (hk : r.kind.valueKind? = some kind) :
    FailsOnly (r.Unevaluable registry form) (r.matchesKind l form kind r.control) := by
  have hcustom : r.kind ≠ .custom := by
    intro hcustom
    rw [hcustom] at hk
    cases hk
  have hsome : r.kind.valueKind? ≠ none := by simp [hk]
  refine (h.failsOnly_readValue hcustom).bind fun value _ => .ite (fun _ => .ok _) fun _ => ?_
  split
  · exact .ok _
  · rename_i c hc
    refine (h.failsOnly_operandText hsome hc).bind fun operand _ => ?_
    -- The check has asked for the bound of a range.
    have hcompare : FailsOnly (r.Unevaluable registry form)
        (l.compare kind value c.operator operand c.max) :=
      .ite (fun hmax => absurd hmax.2 ((h.comparison hsome c hc).max hmax.1)) (fun _ => .ok _)
    exact hcompare.bind fun _ _ => .ok _

theorem failsOnly_passes (h : r.Declared form) (hk : r.kind ≠ .custom) :
    FailsOnly (r.Unevaluable registry form) (r.passes l form r.control) := by
  unfold passes
  split
  · exact (h.failsOnly_readValue hk).bind fun _ _ => .ok _
  · exact h.failsOnly_matchesPattern ‹_›
  · exact h.failsOnly_matchesKind (by simp [*, RuleKind.valueKind?])
  · exact h.failsOnly_matchesKind (by simp [*, RuleKind.valueKind?])
  · exact h.failsOnly_matchesKind (by simp [*, RuleKind.valueKind?])
  · exact (h.failsOnly_readValue hk).bind fun _ _ => .ok _
  · exact .ok false

theorem failsOnly_value? (h : r.Declared form) : FailsOnly (r.Unreadable form) (r.value? form) :=
  .option_mapM fun id hid => failsOnly_read (mem_references_control hid) (h.resolved id hid)

theorem failsOnly_delegate (h : r.Declared form) (hk : r.kind = .custom) :
    FailsOnly (r.Unevaluable registry form) (r.delegate registry form r.control) := by
  rcases Option.ne_none_iff_exists'.1 (h.function hk) with ⟨name, hname⟩
  cases hget : registry.get? name with
  | none =>
      have hv : r.validator registry = .error (.unregisteredValidator name) := by
        simp [validator, hname, hget]
      rw [delegate, hv]
      exact .error (.unregistered hk hname hget)
  | some v =>
      have hv : r.validator registry = .ok (name, v) := by
        simp [validator, hname, hget]
      rw [delegate, hv]
      cases v with
      | synchronous decide =>
          exact (h.failsOnly_value?.imp fun _ => .unreadable).bind fun _ _ => .ok _
      | asynchronous start => exact .error (.asynchronous hk hname hget)

/-- A rule whose declaration is complete fails to be evaluated only for the reasons listed. -/
theorem failsOnly_evaluateOn (h : r.Declared form) :
    FailsOnly (r.Unevaluable registry form) (r.evaluateOn l registry form r.control) :=
  .ite h.failsOnly_delegate fun hk => (h.failsOnly_passes hk).bind fun _ _ => .ok _

end Declared

/-- A rule without a pattern is refused whatever the value is. -/
theorem evaluateOn_of_unpatterned (hk : r.kind = .regexp) (hpattern : r.pattern = none)
    (control : Option String) : r.evaluateOn l registry form control = .error (r.missing "pattern") := by
  simp [evaluateOn, passes, matchesPattern, hk, hpattern, bind, Except.bind]

/-- A rule that passes its declaration check declares what its kind needs, apart from a pattern, and the form
has the controls that it names.  Whatever the locale and the validators are, evaluating it then ends with an
error that says that something is not there exactly if it is a regexp rule without a pattern, and the error
says so. -/
theorem evaluate_lacks_iff {form : Form} {r : Rule} {control : Option String}
    (h : r.checkDeclaration form = .ok control) :
    r.Declared form ∧ ∀ (l : Locale) (registry : Registry) (x : Error),
      r.evaluate l registry form = .error x ∧ x.isOfLack = true ↔
        r.kind = .regexp ∧ r.pattern = none ∧ x = r.missing "pattern" := by
  have hdeclared := (checkDeclaration_eq_ok_iff.1 h).1
  refine ⟨hdeclared, ?_⟩
  intro l registry x
  rw [evaluate_of_checkDeclaration h]
  constructor
  · rintro ⟨hx, hlack⟩
    cases hdeclared.failsOnly_evaluateOn x hx with
    | unpatterned hk hpattern => exact ⟨hk, hpattern, rfl⟩
    | unparsable => cases hlack
    | unreadable hunreadable =>
        cases hunreadable
        cases hlack
    | unregistered => cases hlack
    | asynchronous => cases hlack
  · rintro ⟨hk, hpattern, rfl⟩
    exact ⟨evaluateOn_of_unpatterned hk hpattern r.control, rfl⟩

/-- A form with a code. -/
def codeForm : Form where
  controls := [⟨"code", .textarea "12"⟩]
  validators := []

/-- A rule about the code that should match a pattern, but has none. -/
def unpatterned : Rule :=
  .about .regexp "code" "digits only"

theorem evaluate_lacks_iff_unpatterned :
    unpatterned.checkDeclaration codeForm = .ok (some "code") ∧
      ∀ l registry, unpatterned.evaluate l registry codeForm = .error (unpatterned.missing "pattern") := by
  have h : unpatterned.checkDeclaration codeForm = .ok (some "code") := rfl
  exact ⟨h, fun l registry => (((evaluate_lacks_iff h).2 l registry _).2 ⟨rfl, rfl, rfl⟩).1⟩

/-- A passed check does not mean that nothing is missing. -/
theorem not_complete_of_checkDeclaration :
    ¬∀ (form : Form) (r : Rule) (control : Option String), r.checkDeclaration form = .ok control →
      ∀ (l : Locale) (registry : Registry) (x : Error), r.evaluate l registry form = .error x →
        (∀ kind name, x ≠ .missingAttribute kind name) ∧ ∀ id, x ≠ .controlNotFound id := by
  intro h
  have hcheck : unpatterned.checkDeclaration codeForm = .ok (some "code") := rfl
  have hevaluate : unpatterned.evaluate .enUS .empty codeForm =
      .error (.missingAttribute "regexp" "pattern") := rfl
  exact (h codeForm unpatterned _ hcheck .enUS .empty _ hevaluate).1 "regexp" "pattern" rfl

end Rule
end FormValidation
