import Mathlib.Data.List.Forall2
import FormValidation.Form.Basic
import FormValidation.Proofs.NameMap
import FormValidation.Proofs.Rule.Attributes

/-!
# Forms read in other orders

Two forms are the same if they have the same controls and declare the same maps of attributes, in whatever orders
these are read (`Form.Same`).  The order of a map is not fixed, so a question about a form may have several
answers (`Form.MayAnswer`), and the same form may give the same ones.  It has the same rules if each name is given
with the same values in the same order (`Form.rules_congr`), which it is in every order if no name is given twice
in the same way (`Form.DeclaresSame.declaresAlike`).
-/

namespace FormValidation

/-! ## Declarations -/

namespace Declaration

/-- The declarations are the same map, maybe read in two orders. -/
def Same (d e : Declaration) : Prop :=
  d.attributes.Perm e.attributes

instance (d e : Declaration) : Decidable (d.Same e) :=
  inferInstanceAs (Decidable (d.attributes.Perm e.attributes))

theorem same_ofList {l : Attributes} (h : (l.map Prod.fst).Nodup) {d : Declaration}
    (hd : l.Perm d.attributes) : d.Same (ofList l) :=
  hd.symm.trans (NameMap.perm_ofList h).symm

end Declaration

/-! ## Forms -/

namespace Form

/-- The forms declare the same maps, maybe read in two orders. -/
def DeclaresSame (f g : Form) : Prop :=
  List.Forall₂ Declaration.Same f.validators g.validators

/-- The forms are the same, but for the orders in which the attributes of their declarations are read. -/
structure Same (f g : Form) : Prop where
  controls : f.controls = g.controls
  declarations : f.DeclaresSame g

/-- Each name is given by the declarations of the forms with the same values in the same order. -/
def DeclaresAlike (f g : Form) : Prop :=
  List.Forall₂ (fun d e => d.attributes.ReadAlike e.attributes) f.validators g.validators

/-- No declaration gives a name twice in the same way. -/
def Unambiguous (f : Form) : Prop :=
  ∀ d ∈ f.validators, d.attributes.Distinct

/-- The form gives the answer, if its attributes are read in some order. -/
def MayAnswer {α : Type} (f : Form) (ask : Form → α) (answer : α) : Prop :=
  ∃ g, f.Same g ∧ ask g = answer

variable {f g h : Form}

namespace DeclaresSame

theorem symm (hf : f.DeclaresSame g) : g.DeclaresSame f :=
  hf.flip.imp fun _ _ hd => hd.symm

theorem trans (hf : f.DeclaresSame g) (hg : g.DeclaresSame h) : f.DeclaresSame h := by
  unfold DeclaresSame at hf hg ⊢
  generalize f.validators = l at hf ⊢
  generalize g.validators = m at hf hg
  generalize h.validators = n at hg ⊢
  induction hf generalizing n with
  | nil => exact hg
  | cons hd _ ih =>
      cases hg with
      | cons he hrest => exact .cons (hd.trans he) (ih _ hrest)

/-- A form in which no name is given twice in the same way is read alike in every order. -/
theorem declaresAlike (hf : f.DeclaresSame g) (hnames : f.Unambiguous) : f.DeclaresAlike g := by
  have hdistinct : List.Forall₂ (fun d e => d.attributes.Distinct ∧ Declaration.Same d e) f.validators
      g.validators := (List.forall₂_and_left _ _).2 ⟨hnames, hf⟩
  exact hdistinct.imp fun _ _ hd => .of_perm hd.1 hd.2

end DeclaresSame

namespace Same

theorem symm (hf : f.Same g) : g.Same f :=
  ⟨hf.controls.symm, hf.declarations.symm⟩

theorem trans (hf : f.Same g) (hg : g.Same h) : f.Same h :=
  ⟨hf.controls.trans hg.controls, hf.declarations.trans hg.declarations⟩

theorem control?_eq (hf : f.Same g) (id : String) : f.control? id = g.control? id := by
  rw [control?, control?, hf.controls]

theorem resolve_eq (hf : f.Same g) (id : String) : f.resolve id = g.resolve id := by
  rw [resolve, resolve, hf.control?_eq]

theorem read_eq (hf : f.Same g) (id : String) : f.read id = g.read id := by
  rw [read, read, hf.control?_eq]

theorem mayAnswer_iff (hf : f.Same g) {α : Type} (ask : Form → α) (answer : α) :
    f.MayAnswer ask answer ↔ g.MayAnswer ask answer := by
  constructor
  · rintro ⟨h, hh, rfl⟩
    exact ⟨h, hf.symm.trans hh, rfl⟩
  · rintro ⟨h, hh, rfl⟩
    exact ⟨h, hf.trans hh, rfl⟩

end Same

/-- Forms of which the declarations are read alike have the same rules, or the same error. -/
theorem rules_congr (hf : f.DeclaresAlike g) : f.rules = g.rules := by
  unfold DeclaresAlike at hf
  unfold rules
  generalize f.validators = l at hf ⊢
  generalize g.validators = m at hf ⊢
  induction hf with
  | nil => rfl
  | cons hd _ ih => rw [List.mapM_cons, List.mapM_cons, Rule.ofAttributes_congr hd, ih]

end Form
end FormValidation
