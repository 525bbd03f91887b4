import FormValidation.Proofs.Rule.Completeness

/-!
# Why rules are refused

Attributes declare no rule for one of the reasons that `Rule.Undeclarable` lists (`failsOnly_rules`).  These,
what a declaration lacks and what keeps a rule from being evaluated are the errors about rules, as
`Error.isOfRule` lists them.  All of them are errors of what was declared or configured
(`Error.isConfiguration_of_isOfRule`).
-/

namespace FormValidation

/-! ## Errors about rules -/

namespace Error

/-- Whether an error is about a rule, about a control that it names, or about its validator. -/
def isOfRule : Error → Bool
  | .missingAttribute _ _ | .unknownRuleKind _ | .unknownOperator _ | .conflictingOperands _
  | .invalidPattern _ | .controlNotFound _ | .unsupportedElement _ _ | .unregisteredValidator _
  | .asynchronousInSynchronousRun _ => true
  | _ => false

theorem isConfiguration_of_isOfRule {x : Error} (h : x.isOfRule = true) :
    x.isConfiguration = true := by
  cases x <;> first
    | rfl
    | simp [isOfRule] at h

theorem isOfRule_of_isOfLack {x : Error} (h : x.isOfLack = true) : x.isOfRule = true := by
  cases x <;> first
    | rfl
    | simp [isOfLack] at h

end Error

/-- All errors that a computation may end with are about rules. -/
def RefusesOnly {α : Type} (x : Except Error α) : Prop :=
  ∀ e, x = .error e → e.isOfRule = true

namespace Rule

/-! ## Declarations -/

/-- Why values declare no rule. -/
inductive Undeclarable (value? : String → Option String) : Error → Prop where
  | kindless (h : value? "validate" = none) :
      Undeclarable value? (.missingAttribute "element" "validate")
  | unknownKind {text : String} (h : value? "validate" = some text) :
      Undeclarable value? (.unknownRuleKind text)
  | unknownOperator {text : String} (h : value? "operator" = some text) :
      Undeclarable value? (.unknownOperator text)
  /-- A comparison has two operands. -/
  | conflicting {label text id : String} (hvalue : value? "comparevalue" = some text)
      (hcontrol : value? "comparecontrol" = some id) :
      Undeclarable value? (.conflictingOperands label)

variable {value? : String → Option String}

theorem failsOnly_operandOf (label : String) :
    FailsOnly (Undeclarable value?) (operandOf label value?) := by
  unfold operandOf
  split
  · exact .error (.conflicting ‹_› ‹_›)
  · exact .ok _
  · exact .ok _
  · exact .ok _

theorem failsOnly_comparisonOf (label : String) :
    FailsOnly (Undeclarable value?) (comparisonOf label value?) := by
  unfold comparisonOf
  split
  · exact .ok _
  · rename_i text htext
    have hoperator : FailsOnly (Undeclarable value?) (Operator.ofText text) := by
      unfold Operator.ofText
      split
      · exact .ok _
      · exact .error (.unknownOperator htext)
    exact hoperator.bind fun operator _ => (failsOnly_operandOf label).bind fun operand _ => .ok _

theorem failsOnly_ofValues (value? : String → Option String) :
    FailsOnly (Undeclarable value?) (ofValues value?) := by
  unfold ofValues
  split
  · exact .error (.kindless ‹_›)
  · rename_i text htext
    have hkind : FailsOnly (Undeclarable value?) (RuleKind.ofText text) := by
      unfold RuleKind.ofText
      split
      · exact .ok _
      · exact .error (.unknownKind htext)
    exact hkind.bind fun kind _ => (failsOnly_comparisonOf _).bind fun comparison _ => .ok _

/-- A form has rules unless some of its declarations is none. -/
theorem failsOnly_rules (form : Form) :
    FailsOnly (fun x => ∃ d ∈ form.validators, Undeclarable d.attributes.value? x) form.rules := by
  refine .list_mapM ?_
  intro d hd
  rw [Rule.ofAttributes_eq]
  exact (failsOnly_ofValues _).imp fun x hx => ⟨d, hd, hx⟩

/-! ## Errors about rules -/

theorem Undeclarable.isOfRule {x : Error} (h : Undeclarable value? x) : x.isOfRule = true := by
  cases h <;> rfl

theorem Unevaluable.isOfRule {registry : Registry} {form : Form} {r : Rule} {x : Error}
    (h : r.Unevaluable registry form x) : x.isOfRule = true := by
  cases h with
  | unreadable h =>
      cases h
      rfl
  | _ => rfl

theorem refusesOnly_rules (form : Form) : RefusesOnly form.rules := by
  intro x hx
  rcases failsOnly_rules form x hx with ⟨attributes, -, h⟩
  exact h.isOfRule

end Rule
end FormValidation
