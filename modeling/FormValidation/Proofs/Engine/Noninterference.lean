import Mathlib.Data.List.Find
import FormValidation.Proofs.Engine.Congruence
import FormValidation.Proofs.Form.Same
import FormValidation.Proofs.Rule.Reading

/-!
# Forms that no run tells apart

A run sees a form through its declarations, and through what reading the ids gives that the declared rules
name.  Forms that are alike in both go through every run with the same events and the same end
(`indistinguishable_of_seen`), synchronous or not.  So controls can be added, removed, moved or replaced as
long as no rule notices (`Form.Unnoticed`).

Declarations are alike if they are read with the same values for each name in the same order.  Where two forms
read the same maps in orders of their own, what a run of the one may give the same run of the other may give
(`interchangeable_of_seen`).
-/

namespace FormValidation

/-! ## Forms that are alike -/

namespace Form

/-- The ids that the declared rules name. -/
def named (f : Form) : List String :=
  match f.rules with
  | .ok rules => rules.flatMap Rule.references
  | .error _ => []

/-- No run of any engine tells the forms apart. -/
def Indistinguishable (f g : Form) : Prop :=
  ∀ (e : Engine) (requested : Option String), e.validate f requested = e.validate g requested ∧
    ∀ patience, e.validateAsync f requested patience = e.validateAsync g requested patience

/-- No run of any engine tells the forms apart, if it is left open in which orders their attributes are read: what a
run of the one may give, the same run of the other may give. -/
def Interchangeable (f g : Form) : Prop :=
  ∀ (e : Engine) (requested : Option String),
    (∀ run, f.MayAnswer (fun form => e.validate form requested) run ↔
      g.MayAnswer (fun form => e.validate form requested) run) ∧
    ∀ patience run, f.MayAnswer (fun form => e.validateAsync form requested patience) run ↔
      g.MayAnswer (fun form => e.validateAsync form requested patience) run

/-- The lists of controls that a form can have in place of its own without a rule noticing. -/
inductive Unnoticed (f : Form) : List Control → Prop where
  /-- Controls that no rule names are added, removed or moved. -/
  | unnamed {controls : List Control}
      (h : controls.filter (fun c => f.named.contains c.id) =
        f.controls.filter fun c => f.named.contains c.id) : Unnoticed f controls
  /-- Controls that do not come first with their ids are put in place of such. -/
  | shadowed {before old new after : List Control} (hcontrols : f.controls = before ++ old ++ after)
      (hold : ∀ c ∈ old, ∃ c' ∈ before, c'.id = c.id)
      (hnew : ∀ c ∈ new, ∃ c' ∈ before, c'.id = c.id) : Unnoticed f (before ++ new ++ after)
  /-- An element is put in place of one with the same value. -/
  | replaced {before after : List Control} {c : Control} {element : Element}
      (hcontrols : f.controls = before ++ c :: after)
      (hread : element.read c.id = c.element.read c.id) :
      Unnoticed f (before ++ ⟨c.id, element⟩ :: after)

variable {f g : Form}

theorem references_subset_named {rules : List Rule} {r : Rule} (hrules : f.rules = .ok rules)
    (hr : r ∈ rules) : r.references ⊆ f.named := by
  intro id hid
  rw [named, hrules]
  exact List.mem_flatMap.2 ⟨r, hr, hid⟩

end Form

/-! ## Runs -/

theorem Rule.SeesAlike.alike {f g : Form} {r : Rule} (h : r.SeesAlike f g) (registry : Registry)
    (requested : Option String) (l : Locale) : r.Alike registry requested l l f g where
  declaration := checkDeclaration_congr h
  value := value?_congr h
  evaluation _ := evaluateOn_congr h l registry

namespace Form

variable {f g : Form}

/-- Forms with the same rules are not told apart if the ids that the rules name give the same. -/
theorem indistinguishable_of_seen (hrules : f.rules = g.rules)
    (h : ∀ id ∈ f.named, f.seen? id = g.seen? id) : f.Indistinguishable g := by
  have halike : ∀ rules, f.rules = .ok rules → ∀ r ∈ rules, r.SeesAlike f g :=
    fun rules hrules r hr id hid => h id (references_subset_named hrules hr hid)
  intro e requested
  cases hl : e.locales.current with
  | error x =>
      have hfails := Engine.runs_of_current_eq_error hl
      refine ⟨(hfails f requested).1.trans (hfails g requested).1.symm, ?_⟩
      intro patience
      exact ((hfails f requested).2 patience).trans ((hfails g requested).2 patience).symm
  | ok l =>
      exact Engine.runs_congr rfl rfl hl hl hrules
        fun rules hrules r hr => (halike rules hrules r hr).alike e.validators requested l

theorem Same.seen?_eq (h : f.Same g) (id : String) : f.seen? id = g.seen? id := by
  rw [seen?, seen?, h.control?_eq]

/-- In whatever orders the attributes of the one form are read, those of the other can be read in the same. -/
theorem exists_indistinguishable (hsame : f.DeclaresSame g)
    (h : ∀ f', f.Same f' → ∀ id ∈ f'.named, f.seen? id = g.seen? id) {f' : Form} (hf : f.Same f') :
    ∃ g', g.Same g' ∧ f'.Indistinguishable g' := by
  have hg : g.DeclaresSame f' := hsame.symm.trans hf.declarations
  refine ⟨⟨g.controls, f'.validators⟩, ⟨rfl, hg⟩, indistinguishable_of_seen rfl ?_⟩
  intro id hid
  exact (hf.seen?_eq id).symm.trans (h f' hf id hid)

/-- A form may give what another one gives if each form that the other may be read as is not told apart from one
that this may be read as. -/
theorem mayAnswer_of_indistinguishable (h : ∀ f', f.Same f' → ∃ g', g.Same g' ∧ f'.Indistinguishable g')
    (e : Engine) (requested : Option String) :
    (∀ run, f.MayAnswer (fun form => e.validate form requested) run →
      g.MayAnswer (fun form => e.validate form requested) run) ∧
    ∀ patience run, f.MayAnswer (fun form => e.validateAsync form requested patience) run →
      g.MayAnswer (fun form => e.validateAsync form requested patience) run := by
  constructor
  · rintro run ⟨f', hf, rfl⟩
    rcases h f' hf with ⟨g', hg, halike⟩
    exact ⟨g', hg, (halike e requested).1.symm⟩
  · rintro patience run ⟨f', hf, rfl⟩
    rcases h f' hf with ⟨g', hg, halike⟩
    exact ⟨g', hg, ((halike e requested).2 patience).symm⟩

/-- Forms that declare the same maps are interchangeable if the ids that rules may name give the same. -/
theorem interchangeable_of_seen (hsame : f.DeclaresSame g)
    (h : ∀ f', f.Same f' → ∀ id ∈ f'.named, f.seen? id = g.seen? id) : f.Interchangeable g := by
  -- What rules of the other form may name rules of this one may name.
  have hsymm : ∀ g', g.Same g' → ∀ id ∈ g'.named, g.seen? id = f.seen? id := by
    intro g' hg id hid
    have hf : f.Same ⟨f.controls, g'.validators⟩ := ⟨rfl, hsame.trans hg.declarations⟩
    exact (h _ hf id hid).symm
  intro e requested
  have hforth := mayAnswer_of_indistinguishable (fun _ => exists_indistinguishable hsame h) e requested
  have hback := mayAnswer_of_indistinguishable (fun _ => exists_indistinguishable hsame.symm hsymm) e requested
  exact ⟨fun run => ⟨hforth.1 run, hback.1 run⟩,
    fun patience run => ⟨hforth.2 patience run, hback.2 patience run⟩⟩

/-! ## Changes that no rule notices -/

/-- The first control with an id of a list is also the first one among those with ids of the list. -/
theorem find?_filter_contains {ids : List String} {id : String} (hid : id ∈ ids)
    (controls : List Control) :
    (controls.filter fun c => ids.contains c.id).find? (fun c => c.id == id) =
      controls.find? fun c => c.id == id := by
  rw [List.find?_filter]
  refine List.find?_congr ?_
  intro c hc
  by_cases h : c.id = id
  · simp [h, hid]
  · simp [h]

/-- Controls that do not come first with their ids are not found. -/
theorem find?_append_shadowed {before between : List Control}
    (h : ∀ c ∈ between, ∃ c' ∈ before, c'.id = c.id) (after : List Control) (id : String) :
    (before ++ between ++ after).find? (fun c => c.id == id) =
      (before ++ after).find? fun c => c.id == id := by
  rw [List.find?_append, List.find?_append, List.find?_append]
  cases hbefore : before.find? fun c => c.id == id with
  | some c => rfl
  | none =>
      have hbetween : (between.find? fun c => c.id == id) = none := by
        refine List.find?_eq_none.2 ?_
        intro c hc hcid
        rcases h c hc with ⟨c', hc', hid⟩
        exact List.find?_eq_none.1 hbefore c' hc' (by rw [hid]; exact hcid)
      rw [hbetween, Option.none_or]

/-- After a change that no rule notices the ids that the rules name give the same. -/
theorem Unnoticed.seen?_eq {controls : List Control} (h : f.Unnoticed controls) {id : String}
    (hid : id ∈ f.named) : f.seen? id = seen? { f with controls } id := by
  unfold seen? control?
  cases h with
  | unnamed h =>
      show Option.map _ (f.controls.find? _) = Option.map _ (controls.find? _)
      rw [← find?_filter_contains hid controls, h, find?_filter_contains hid]
  | @shadowed before old new after hcontrols hold hnew =>
      show Option.map _ (f.controls.find? _) = Option.map _ ((before ++ new ++ after).find? _)
      rw [hcontrols, find?_append_shadowed hold, find?_append_shadowed hnew]
  | @replaced before after c element hcontrols hread =>
      show Option.map _ (f.controls.find? _) = Option.map _ ((before ++ ⟨c.id, element⟩ :: after).find? _)
      rw [hcontrols, List.find?_append, List.find?_append]
      cases before.find? fun c => c.id == id with
      | some c' => rfl
      | none =>
          by_cases hc : c.id = id
          · subst hc
            simp [hread]
          · simp [hc]

/-- A form is seen through the values of the controls that its rules name.  Forms in which these ids give the same
go through all runs alike, if they declare each name with the same values in the same order, as forms that declare
the same maps do unless a name is given twice in the same way; and if one is, no run gives anything for the one form
that it could not give for the other.  A form of which no rule notices that its controls were changed goes through
all runs as before. -/
theorem indistinguishable_of_alike (f : Form) :
    (∀ g : Form, f.DeclaresAlike g → (∀ id ∈ f.named, f.seen? id = g.seen? id) →
      f.Indistinguishable g) ∧
    (∀ g : Form, f.DeclaresSame g → f.Unambiguous → (∀ id ∈ f.named, f.seen? id = g.seen? id) →
      f.Indistinguishable g) ∧
    (∀ g : Form, f.DeclaresSame g → (∀ f', f.Same f' → ∀ id ∈ f'.named, f.seen? id = g.seen? id) →
      f.Interchangeable g) ∧
    ∀ controls, f.Unnoticed controls → f.Indistinguishable { f with controls } := by
  refine ⟨?_, ?_, fun g => interchangeable_of_seen, ?_⟩
  · intro g halike
    exact indistinguishable_of_seen (rules_congr halike)
  · intro g hsame hnames
    exact indistinguishable_of_seen (rules_congr (hsame.declaresAlike hnames))
  · intro controls h
    exact indistinguishable_of_seen rfl fun id => h.seen?_eq

/-- A form that compares two of its controls, and has a validator called with one of them. -/
def limitedForm : Form where
  controls :=
    [⟨"age", .input "number" "17" false⟩, ⟨"limit", .textarea "18"⟩, ⟨"note", .textarea ""⟩]
  validators :=
    [.ofList [("validate", "int"), ("control", "age"), ("message", "too young"),
        ("operator", "greaterthan"), ("comparecontrol", "limit")],
      .ofList [("validate", "custom"), ("function", "known"), ("control", "age")]]

/-- The same declarations, read in other orders, with other elements in another order, some behind the first ones
of their ids. -/
def rearrangedForm : Form where
  controls :=
    [⟨"send", .other "button"⟩, ⟨"limit", .select [⟨"18", true⟩, ⟨"21", false⟩]⟩,
      ⟨"age", .textarea "17"⟩, ⟨"age", .other "label"⟩]
  validators :=
    [⟨[("validate", "int"), ("operator", "greaterthan"), ("control", "age"), ("message", "too young"),
        ("comparecontrol", "limit")], by decide +kernel⟩,
      ⟨[("control", "age"), ("validate", "custom"), ("function", "known")], by decide +kernel⟩]

/-- A form that declares a rule for one of two controls: the one that is read last. -/
def ambiguousForm : Form where
  controls := limitedForm.controls
  validators :=
    [⟨[("validate", "required"), ("control", "age"), ("Control", "limit")], by decide +kernel⟩]

/-- The same form, read in another order. -/
def reversedForm : Form where
  controls := limitedForm.controls
  validators :=
    [⟨[("Control", "limit"), ("control", "age"), ("validate", "required")], by decide +kernel⟩]

theorem indistinguishable_of_alike_limited :
    limitedForm.named = ["age", "limit", "age"] ∧
      (∀ id ∈ limitedForm.named, limitedForm.seen? id = rearrangedForm.seen? id) ∧
      limitedForm.DeclaresSame rearrangedForm ∧ limitedForm.Unambiguous ∧
      limitedForm.Indistinguishable rearrangedForm ∧
      ambiguousForm.named = ["limit"] ∧ reversedForm.named = ["age"] ∧
      ambiguousForm.Interchangeable reversedForm ∧
      limitedForm.Unnoticed (limitedForm.controls ++ [⟨"age", .textarea "99"⟩]) ∧
      limitedForm.Indistinguishable (limitedForm.addControl "age" (.textarea "99")) := by
  have hseen : ∀ id ∈ limitedForm.named, limitedForm.seen? id = rearrangedForm.seen? id := by
    decide +kernel
  have hsame : limitedForm.DeclaresSame rearrangedForm :=
    .cons (by decide +kernel) (.cons (by decide +kernel) .nil)
  have hnames : limitedForm.Unambiguous := by
    unfold Unambiguous Attributes.Distinct
    decide +kernel
  have hreversed : ambiguousForm.DeclaresSame reversedForm := .cons (by decide +kernel) .nil
  let later : Control := ⟨"age", .textarea "99"⟩
  have hadded : limitedForm.Unnoticed (limitedForm.controls ++ [later]) := by
    have hcontrols : limitedForm.controls = limitedForm.controls ++ [] ++ [] := by simp
    have hlater : ∀ c ∈ [later], ∃ c' ∈ limitedForm.controls, c'.id = c.id := by decide +kernel
    have hshadowed := Form.Unnoticed.shadowed hcontrols (by simp) hlater
    rwa [List.append_nil] at hshadowed
  obtain ⟨-, hlimited, -, hchanged⟩ := indistinguishable_of_alike limitedForm
  obtain ⟨-, -, hopen, -⟩ := indistinguishable_of_alike ambiguousForm
  exact ⟨by decide +kernel, hseen, hsame, hnames, hlimited _ hsame hnames hseen, by decide +kernel,
    by decide +kernel, hopen _ hreversed fun _ _ _ _ => rfl, hadded, hchanged _ hadded⟩

end Form
end FormValidation
