import FormValidation.Proofs.Rule.Attributes
import FormValidation.Proofs.Rule.Reading

/-!
# Declarations of rules

Every rule can be declared by attributes (`Rule.toAttributes`), and in many ways: in any order, with names, kinds
and operators in any case and with white space around them, behind `data-` or not, among attributes that mean
nothing (`Rule.DeclaredBy`).  All of these declarations are read as the rule (`ofAttributes_unambiguous`).
-/

namespace FormValidation

/-! ## Declarations of a rule -/

namespace RuleKind

theorem isSolid_name (kind : RuleKind) : Text.IsSolid kind.name := by
  cases kind <;> decide +kernel

theorem lower_name (kind : RuleKind) : Text.lower kind.name = kind.name := by
  cases kind <;> decide +kernel

instance (kind : RuleKind) (text : String) : Decidable (Text.Spells text kind.name) :=
  decidable_of_iff _ (Text.spells_iff kind.isSolid_name).symm

end RuleKind

namespace Operator

theorem isSolid_name (operator : Operator) : Text.IsSolid operator.name := by
  cases operator <;> decide +kernel

theorem lower_name (operator : Operator) : Text.lower operator.name = operator.name := by
  cases operator <;> decide +kernel

instance (operator : Operator) (text : String) : Decidable (Text.Spells text operator.name) :=
  decidable_of_iff _ (Text.spells_iff operator.isSolid_name).symm

end Operator

/-- The text that a comparison compares with. -/
def Comparison.text? (c : Comparison) : Option String :=
  match c.operand with
  | some (.value text) => some text
  | _ => none

namespace Rule

/-- The parts of a rule that are said word by word. -/
def parts (r : Rule) : List (String × Option String) :=
  [("control", r.control), ("message", r.message), ("validationgroup", r.group),
    ("pattern", r.pattern), ("function", r.function),
    ("comparevalue", r.comparison.bind Comparison.text?),
    ("comparecontrol", r.comparison.bind Comparison.control?),
    ("comparemaxvalue", r.comparison.bind Comparison.max)]

/-- The attributes by which a rule is declared as plainly as can be. -/
def toAttributes (r : Rule) : Attributes :=
  ("validate", r.kind.name) :: (if r.enabled then [] else [("enabled", "false")]) ++
    (r.comparison.map fun c => ("operator", c.operator.name)).toList ++
    r.parts.filterMap fun (name, part) => part.map (name, ·)

/-- An attribute of the given name may be the given text when the rule is declared.  Kinds and operators may be
spelled in any way; that a rule is enabled may be said by any text but `false`. -/
def Tells (r : Rule) (name text : String) : Prop :=
  (name = "validate" ∧ Text.Spells text r.kind.name) ∨
    (name = "enabled" ∧ r.enabled = (Text.trim text != "false")) ∨
    (name = "operator" ∧ ∃ c ∈ r.comparison, Text.Spells text c.operator.name) ∨
    (name, some text) ∈ r.parts

instance (r : Rule) (name text : String) : Decidable (r.Tells name text) :=
  inferInstanceAs (Decidable (_ ∨ _ ∨ _ ∨ _))

/-- The attributes declare the rule: what has to be said about it is said, and what is said is said about it,
but for attributes of unknown names and for those that do not count beside one behind `data-`. -/
structure DeclaredBy (r : Rule) (attributes : Attributes) : Prop where
  complete : ∀ a ∈ r.toAttributes, ∃ b ∈ attributes, ∃ behind, AttributeName.SpelledBy ⟨a.1, behind⟩ b.1
  sound : ∀ a ∈ attributes, ∀ name ∈ Attributes.known, ∀ behind,
    AttributeName.SpelledBy ⟨name, behind⟩ a.1 →
      r.Tells name a.2 ∨ behind = false ∧ ∃ b ∈ attributes, AttributeName.SpelledBy ⟨name, true⟩ b.1

variable {r : Rule} {attributes : Attributes} {name text : String} {part : Option String}

theorem eq_of_tells (hp : (name, part) ∈ r.parts) (h : r.Tells name text) : part = some text := by
  simp only [parts, List.mem_cons, List.not_mem_nil, Prod.mk.injEq, or_false] at hp
  rcases hp with ⟨rfl, rfl⟩ | ⟨rfl, rfl⟩ | ⟨rfl, rfl⟩ | ⟨rfl, rfl⟩ | ⟨rfl, rfl⟩ | ⟨rfl, rfl⟩ |
    ⟨rfl, rfl⟩ | ⟨rfl, rfl⟩ <;> simpa [Tells, parts, eq_comm] using h

theorem tells_validate (h : r.Tells "validate" text) : Text.Spells text r.kind.name := by
  simpa [Tells, parts] using h

theorem tells_enabled (h : r.Tells "enabled" text) : r.enabled = (Text.trim text != "false") := by
  simpa [Tells, parts] using h

theorem tells_operator (h : r.Tells "operator" text) :
    ∃ c, r.comparison = some c ∧ Text.Spells text c.operator.name := by
  simpa [Tells, parts] using h

theorem mem_known_of_mem_parts (h : (name, part) ∈ r.parts) : name ∈ Attributes.known := by
  have hname : name ∈ r.parts.map Prod.fst := List.mem_map.2 ⟨_, h, rfl⟩
  have hnames : ["control", "message", "validationgroup", "pattern", "function", "comparevalue",
      "comparecontrol", "comparemaxvalue"] ⊆ Attributes.known := by decide
  exact hnames hname

/-- What a rule is declared by says its kind, that it is disabled, its operator, or one of its parts. -/
theorem mem_toAttributes_iff {a : String × String} :
    a ∈ r.toAttributes ↔ a = ("validate", r.kind.name) ∨ (r.enabled = false ∧ a = ("enabled", "false")) ∨
      (∃ c, r.comparison = some c ∧ a = ("operator", c.operator.name)) ∨
      (a.1, some a.2) ∈ r.parts := by
  have hparts : a ∈ r.parts.filterMap (fun (name, part) => part.map (name, ·)) ↔
      (a.1, some a.2) ∈ r.parts := by
    rw [List.mem_filterMap]
    constructor
    · rintro ⟨⟨name, part⟩, hmem, ha⟩
      rcases Option.map_eq_some_iff.1 ha with ⟨text, rfl, rfl⟩
      exact hmem
    · intro h
      exact ⟨_, h, rfl⟩
  have henabled : a ∈ (if r.enabled then [] else [("enabled", "false")]) ↔
      r.enabled = false ∧ a = ("enabled", "false") := by
    cases r.enabled <;> simp
  have hoperator : a ∈ (r.comparison.map fun c => ("operator", c.operator.name)).toList ↔
      ∃ c, r.comparison = some c ∧ a = ("operator", c.operator.name) := by
    cases r.comparison <;> simp
  simp only [toAttributes, List.cons_append, List.mem_cons, List.mem_append, henabled, hoperator, hparts,
    or_assoc]

/-! ## Reading a rule -/

/-- The values found say all that has to be said about a rule, and nothing else. -/
structure ToldBy (r : Rule) (value? : String → Option String) : Prop where
  complete : ∀ a ∈ r.toAttributes, ∃ text, value? a.1 = some text
  sound : ∀ name ∈ Attributes.known, ∀ text, value? name = some text → r.Tells name text

theorem ofText_kind {kind : RuleKind} {text : String} (h : Text.Spells text kind.name) :
    RuleKind.ofText text = .ok kind := by
  have hinj : ∀ k ∈ RuleKind.all, Text.lower k.name = kind.name → k = kind := by
    cases kind <;> decide +kernel
  have hmem : kind ∈ RuleKind.all := by
    cases kind <;> decide
  have hfind := Text.find?_of_spells hmem kind.isSolid_name kind.lower_name hinj h
  simp only [RuleKind.ofText, hfind]

theorem ofText_operator {operator : Operator} {text : String} (h : Text.Spells text operator.name) :
    Operator.ofText text = .ok operator := by
  have hinj : ∀ op ∈ Operator.all, Text.lower op.name = operator.name → op = operator := by
    cases operator <;> decide +kernel
  have hmem : operator ∈ Operator.all := by
    cases operator <;> decide
  have hfind := Text.find?_of_spells hmem operator.isSolid_name operator.lower_name hinj h
  simp only [Operator.ofText, hfind]

namespace ToldBy

variable {value? : String → Option String}

theorem validate (h : r.ToldBy value?) :
    ∃ text, value? "validate" = some text ∧ RuleKind.ofText text = .ok r.kind := by
  rcases h.complete _ (mem_toAttributes_iff.2 (.inl rfl)) with ⟨text, htext⟩
  have hspells := tells_validate (h.sound "validate" (by decide) text htext)
  exact ⟨text, htext, ofText_kind hspells⟩

/-- A rule is enabled unless it is said not to be. -/
theorem enabled (h : r.ToldBy value?) :
    (value? "enabled").all (fun text => Text.trim text != "false") = r.enabled := by
  cases hv : value? "enabled" with
  | some text =>
      have htells := tells_enabled (h.sound "enabled" (by decide) text hv)
      simp [htells]
  | none =>
      cases henabled : r.enabled with
      | true => rfl
      | false =>
          -- A rule that is not enabled says so, and a value would be found.
          rcases h.complete _ (mem_toAttributes_iff.2 (.inr (.inl ⟨henabled, rfl⟩))) with ⟨text, htext⟩
          simp [hv] at htext

/-- The value found for a part that is said word by word is the part. -/
theorem value?_eq (h : r.ToldBy value?) (hp : (name, part) ∈ r.parts) : value? name = part := by
  cases hv : value? name with
  | some text => exact (eq_of_tells hp (h.sound name (mem_known_of_mem_parts hp) text hv)).symm
  | none =>
      cases part with
      | none => rfl
      | some text =>
          have hmem : (name, text) ∈ r.toAttributes := mem_toAttributes_iff.2 (.inr (.inr (.inr hp)))
          rcases h.complete _ hmem with ⟨text', htext'⟩
          simp [hv] at htext'

theorem operator (h : r.ToldBy value?) {c : Comparison} (hc : r.comparison = some c) :
    ∃ text, value? "operator" = some text ∧ Operator.ofText text = .ok c.operator := by
  have hmem : ("operator", c.operator.name) ∈ r.toAttributes :=
    mem_toAttributes_iff.2 (.inr (.inr (.inl ⟨c, hc, rfl⟩)))
  rcases h.complete _ hmem with ⟨text, htext⟩
  rcases tells_operator (h.sound "operator" (by decide) text htext) with ⟨c', hc', hspells⟩
  obtain rfl : c = c' := by simpa [hc] using hc'
  exact ⟨text, htext, ofText_operator hspells⟩

theorem operandOf (h : r.ToldBy value?) {c : Comparison} (hc : r.comparison = some c) (label : String) :
    operandOf label value? = .ok c.operand := by
  have htext : value? "comparevalue" = c.text? := h.value?_eq (by simp [parts, hc])
  have hcontrol : value? "comparecontrol" = c.control? := h.value?_eq (by simp [parts, hc])
  unfold Rule.operandOf
  rw [htext, hcontrol]
  rcases hoperand : c.operand with _ | text | id <;>
    simp [Comparison.text?, Comparison.control?, hoperand]

theorem comparisonOf (h : r.ToldBy value?) (label : String) :
    comparisonOf label value? = .ok r.comparison := by
  unfold Rule.comparisonOf
  cases hc : r.comparison with
  | none =>
      have hnone : value? "operator" = none := by
        cases hv : value? "operator" with
        | none => rfl
        | some text =>
            rcases tells_operator (h.sound "operator" (by decide) text hv) with ⟨c, hc', -⟩
            simp [hc] at hc'
      rw [hnone]
  | some c =>
      rcases h.operator hc with ⟨text, htext, hoperator⟩
      have hmax : value? "comparemaxvalue" = c.max := h.value?_eq (by simp [parts, hc])
      rw [htext]
      simp [hoperator, h.operandOf hc, hmax, bind, Except.bind, pure, Except.pure]

/-- Values that say all about a rule are read as the rule. -/
theorem ofValues (h : r.ToldBy value?) : ofValues value? = .ok r := by
  rcases h.validate with ⟨text, htext, hkind⟩
  have hcontrol : value? "control" = r.control := h.value?_eq (by simp [parts])
  have hmessage : value? "message" = r.message := h.value?_eq (by simp [parts])
  have hgroup : value? "validationgroup" = r.group := h.value?_eq (by simp [parts])
  have hpattern : value? "pattern" = r.pattern := h.value?_eq (by simp [parts])
  have hfunction : value? "function" = r.function := h.value?_eq (by simp [parts])
  unfold Rule.ofValues
  rw [htext, hcontrol, hmessage, hgroup, hpattern, hfunction, h.enabled]
  simp [hkind, h.comparisonOf, bind, Except.bind, pure, Except.pure]

end ToldBy

/-! ## Reading declarations -/

theorem mem_known_of_mem_toAttributes {a : String × String} (h : a ∈ r.toAttributes) :
    a.1 ∈ Attributes.known := by
  rcases mem_toAttributes_iff.1 h with rfl | ⟨-, rfl⟩ | ⟨c, -, rfl⟩ | hp
  · simp [Attributes.known]
  · simp [Attributes.known]
  · simp [Attributes.known]
  · exact mem_known_of_mem_parts hp

theorem tells_of_mem_toAttributes {a : String × String} (h : a ∈ r.toAttributes) :
    r.Tells a.1 a.2 := by
  rcases mem_toAttributes_iff.1 h with rfl | ⟨henabled, rfl⟩ | ⟨c, hc, rfl⟩ | hp
  · exact .inl ⟨rfl, Text.spells_self r.kind.lower_name⟩
  · refine .inr (.inl ⟨rfl, ?_⟩)
    rw [henabled]
    decide +kernel
  · exact .inr (.inr (.inl ⟨rfl, c, hc, Text.spells_self c.operator.lower_name⟩))
  · exact .inr (.inr (.inr hp))

/-- Declarations in terms of the names that are found in attributes. -/
theorem declaredBy_iff : r.DeclaredBy attributes ↔
    (∀ a ∈ r.toAttributes, ∃ b ∈ attributes, ∃ behind, AttributeName.ofText b.1 = ⟨a.1, behind⟩) ∧
    ∀ a ∈ attributes, ∀ name ∈ Attributes.known, ∀ behind,
      AttributeName.ofText a.1 = ⟨name, behind⟩ →
        r.Tells name a.2 ∨ behind = false ∧ ∃ b ∈ attributes, AttributeName.ofText b.1 = ⟨name, true⟩ := by
  constructor
  · intro h
    refine ⟨?_, ?_⟩
    · intro a ha
      rcases h.complete a ha with ⟨b, hb, behind, hspelled⟩
      have hknown := mem_known_of_mem_toAttributes ha
      exact ⟨b, hb, behind, (AttributeName.ofText_eq_iff hknown behind b.1).2 hspelled⟩
    · intro a ha name hname behind hfound
      have hspelled := (AttributeName.ofText_eq_iff hname behind a.1).1 hfound
      rcases h.sound a ha name hname behind hspelled with htells | ⟨hbare, b, hb, hbehind⟩
      · exact .inl htells
      · exact .inr ⟨hbare, b, hb, (AttributeName.ofText_eq_iff hname true b.1).2 hbehind⟩
  · rintro ⟨hcomplete, hsound⟩
    refine ⟨?_, ?_⟩
    · intro a ha
      rcases hcomplete a ha with ⟨b, hb, behind, hfound⟩
      have hknown := mem_known_of_mem_toAttributes ha
      exact ⟨b, hb, behind, (AttributeName.ofText_eq_iff hknown behind b.1).1 hfound⟩
    · intro a ha name hname behind hspelled
      have hfound := (AttributeName.ofText_eq_iff hname behind a.1).2 hspelled
      rcases hsound a ha name hname behind hfound with htells | ⟨hbare, b, hb, hbehind⟩
      · exact .inl htells
      · exact .inr ⟨hbare, b, hb, (AttributeName.ofText_eq_iff hname true b.1).1 hbehind⟩

instance (r : Rule) (attributes : Attributes) : Decidable (r.DeclaredBy attributes) :=
  decidable_of_iff _ declaredBy_iff.symm

/-- What attributes declare is what the values that count say. -/
theorem DeclaredBy.toldBy (h : r.DeclaredBy attributes) : r.ToldBy attributes.value? := by
  rcases declaredBy_iff.1 h with ⟨hcomplete, hsound⟩
  refine ⟨?_, ?_⟩
  · intro a ha
    rcases hcomplete a ha with ⟨b, hb, behind, hfound⟩
    exact Attributes.exists_value? hb (by rw [hfound])
  · intro name hname text htext
    cases Attributes.gives_of_value? htext with
    | behind ha hfound =>
        rcases hsound _ ha name hname true hfound with htells | ⟨hbare, -⟩
        · exact htells
        · simp at hbare
    | bare ha hfound hnone =>
        rcases hsound _ ha name hname false hfound with htells | ⟨-, b, hb, hbehind⟩
        · exact htells
        · exact absurd hbehind (hnone b hb)

/-- Every rule is declared by its attributes. -/
theorem declaredBy_toAttributes (r : Rule) : r.DeclaredBy r.toAttributes := by
  have hself : ∀ a ∈ r.toAttributes, AttributeName.ofText a.1 = ⟨a.1, false⟩ := by
    intro a ha
    have hknown := mem_known_of_mem_toAttributes ha
    refine (AttributeName.ofText_eq_iff hknown false a.1).2 ?_
    exact Text.spells_self (Attributes.lower_of_known a.1 hknown)
  refine declaredBy_iff.2 ⟨?_, ?_⟩
  · intro a ha
    exact ⟨a, ha, false, hself a ha⟩
  · intro a ha name _ behind hfound
    have hname : a.1 = name := congrArg AttributeName.name ((hself a ha).symm.trans hfound)
    exact .inl (hname ▸ tells_of_mem_toAttributes ha)

/-- What attributes declare does not depend on their order unless a name is given twice in the same way; it is
what the values behind `data-`, and for lack of them the others, say.  Every rule can be declared, and however
that is done, the declaration is read as the rule. -/
theorem ofAttributes_unambiguous :
    (∀ attributes : Attributes, attributes.Distinct → ∀ attributes', attributes'.Perm attributes →
      ofAttributes attributes' = ofAttributes attributes ∧
        ∀ find? : String → Option String,
          (∀ name text, find? name = some text ↔ attributes.Gives name text) →
          ofAttributes attributes' = ofValues find?) ∧
    ∀ r : Rule, r.DeclaredBy r.toAttributes ∧
      ∀ attributes, r.DeclaredBy attributes → ofAttributes attributes = .ok r := by
  refine ⟨?_, ?_⟩
  · intro attributes hdistinct attributes' hperm
    have hvalues : ∀ find? : String → Option String,
        (∀ name text, find? name = some text ↔ attributes.Gives name text) →
        ofAttributes attributes' = ofValues find? := by
      intro find? hfind
      rw [ofAttributes_eq, Attributes.value?_perm hdistinct hperm.symm hfind]
    exact ⟨hvalues attributes.value? (Attributes.value?_eq_some_iff hdistinct), hvalues⟩
  · intro r
    refine ⟨declaredBy_toAttributes r, ?_⟩
    intro attributes h
    rw [ofAttributes_eq]
    exact h.toldBy.ofValues

/-- Attributes in several spellings, of which one is not known and one does not count. -/
def spelledAttributes : Attributes :=
  [("Class", "wide"), ("control", "other"), (" data-CONTROL\n", "age"), ("Validate", "\tInt"),
    ("DATA-operator", "LessThan "), ("compareValue", "18")]

theorem ofAttributes_unambiguous_spelled :
    spelledAttributes.Distinct ∧ spelledAttributes.reverse.Perm spelledAttributes ∧
      (∀ name text, spelledAttributes.value? name = some text ↔ spelledAttributes.Gives name text) ∧
      ofAttributes spelledAttributes.reverse = ofAttributes spelledAttributes ∧
      ofAttributes spelledAttributes.reverse = ofValues spelledAttributes.value? ∧
      DeclaredBy { kind := .int, control := some "age", comparison := some (.withValue .lessThan "18") }
        spelledAttributes ∧
      ofAttributes spelledAttributes = .ok
        { kind := .int, control := some "age", comparison := some (.withValue .lessThan "18") } := by
  have hdistinct : spelledAttributes.Distinct := by
    unfold Attributes.Distinct
    decide +kernel
  have hperm : spelledAttributes.reverse.Perm spelledAttributes := List.reverse_perm _
  have hfind := Attributes.value?_eq_some_iff hdistinct
  have hdeclared : DeclaredBy
      { kind := .int, control := some "age", comparison := some (.withValue .lessThan "18") }
      spelledAttributes := by
    decide +kernel
  have horder := ofAttributes_unambiguous.1 spelledAttributes hdistinct _ hperm
  exact ⟨hdistinct, hperm, hfind, horder.1, horder.2 _ hfind, hdeclared,
    (ofAttributes_unambiguous.2 _).2 _ hdeclared⟩

end Rule
end FormValidation
