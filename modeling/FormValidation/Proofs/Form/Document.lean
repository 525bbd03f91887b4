import Mathlib.Data.List.Forall2
import FormValidation.Form.Document
import FormValidation.Proofs.Engine.Noninterference
import FormValidation.Proofs.Json.Layout

/-!
# Reading forms that were written

A form is written as a value in which the attributes of a declaration stand in any order (`Form.Writes`).  From
either layout of that value the same form is read: element by element the reader finds the fields that were
written, and declaration by declaration the attributes, which make up the same map.  So the form that is read
answers as the one that was written (`Form.Agrees`, `Form.ofText_of_writes`).
-/

namespace FormValidation

namespace Json

theorem asList_arr {α : Type} {decode : Json → Option α} {items : List Json} {l : List α}
    (h : List.Forall₂ (fun j a => decode j = some a) items l) : asList decode (.arr items) = some l := by
  show items.mapM decode = some l
  induction h with
  | nil => rfl
  | cons hj _ ih => rw [List.mapM_cons, hj, ih]; rfl

theorem asList_map {α : Type} {decode : Json → Option α} {encode : α → Json}
    (h : ∀ a, decode (encode a) = some a) (l : List α) : asList decode (.arr (l.map encode)) = some l := by
  refine asList_arr ?_
  rw [List.forall₂_map_left_iff, List.forall₂_same]
  exact fun a _ => h a

end Json

/-! ## Controls -/

namespace SelectOption

theorem ofJson?_toJson (o : SelectOption) : ofJson? o.toJson = some o :=
  rfl

theorem fits_toJson (o : SelectOption) (depth : Nat) : o.toJson.Fits (depth + 1) :=
  ⟨trivial, trivial, trivial⟩

end SelectOption

namespace Element

/-- The fields of an element are found behind the id of its control. -/
theorem ofMembers?_members (id : Json) (e : Element) : ofMembers? (("id", id) :: e.members) = some e := by
  cases e with
  | input type value checked => rfl
  | textarea value => rfl
  | select options =>
      have hoptions := Json.asList_map SelectOption.ofJson?_toJson options
      show (Json.asList SelectOption.ofJson? (.arr (options.map SelectOption.toJson)) >>=
        fun options => some (Element.select options)) = some (Element.select options)
      rw [hoptions]
      rfl
  | other name => rfl

theorem fits_members (e : Element) (depth : Nat) : Json.FitsMembers e.members (depth + 2) := by
  cases e with
  | input type value checked => exact ⟨trivial, trivial, trivial, trivial, trivial⟩
  | textarea value => exact ⟨trivial, trivial, trivial⟩
  | select options =>
      have hoptions : Json.FitsItems (options.map SelectOption.toJson) (depth + 1) := by
        rw [Json.fitsItems_iff, List.forall_mem_map]
        exact fun o _ => o.fits_toJson depth
      exact ⟨trivial, hoptions, trivial⟩
  | other name => exact ⟨trivial, trivial, trivial⟩

end Element

namespace Control

theorem ofJson?_toJson (c : Control) : ofJson? c.toJson = some c := by
  obtain ⟨id, e⟩ := c
  have hid : Json.required "id" Json.asText (("id", .str id) :: e.members) = some id := by
    cases e <;> rfl
  show (Json.required "id" Json.asText (("id", .str id) :: e.members) >>= fun id' =>
    Element.ofMembers? (("id", .str id) :: e.members) >>= fun e' => some (Control.mk id' e')) =
      some (Control.mk id e)
  rw [hid, Element.ofMembers?_members]
  rfl

theorem fits_toJson (c : Control) (depth : Nat) : c.toJson.Fits (depth + 3) :=
  ⟨trivial, c.element.fits_members depth⟩

end Control

/-! ## Forms -/

namespace Form

/-- The value stands for a declaration, with its attributes written in any order. -/
def WritesDeclaration (d : Declaration) (j : Json) : Prop :=
  ∃ entries : Attributes, entries.Perm d.attributes ∧ j = .obj (entries.map fun a => (a.1, .str a.2))

/-- The value stands for a form, with the attributes of each declaration written in any order; the order in which
they are read is one of these (`writes_toJson`). -/
def Writes (f : Form) (j : Json) : Prop :=
  ∃ validators, List.Forall₂ WritesDeclaration f.validators validators ∧
    j = .obj [("controls", .arr (f.controls.map Control.toJson)), ("validators", .arr validators)]

theorem writesDeclaration_declarationJson (d : Declaration) : WritesDeclaration d (declarationJson d) :=
  ⟨d.attributes, .refl _, rfl⟩

theorem writes_toJson (f : Form) : f.Writes f.toJson := by
  refine ⟨_, ?_, rfl⟩
  rw [List.forall₂_map_right_iff, List.forall₂_same]
  exact fun d _ => writesDeclaration_declarationJson d

/-- The declaration that is read is the one that was written, its attributes maybe in another order. -/
theorem WritesDeclaration.exists_declarationOf {d : Declaration} {j : Json} (h : WritesDeclaration d j) :
    ∃ d', d.Same d' ∧ declarationOf j = some d' := by
  rcases h with ⟨entries, hperm, rfl⟩
  have hnodup : (entries.map Prod.fst).Nodup := (hperm.map Prod.fst).nodup_iff.2 d.nodup
  have hentries : (entries.map fun a => (a.1, Json.str a.2)).mapM (fun m => m.2.asText.map (m.1, ·)) =
      some entries := by
    clear hperm hnodup
    induction entries with
    | nil => rfl
    | cons a entries ih =>
        rw [List.map_cons, List.mapM_cons, ih]
        rfl
  refine ⟨.ofList entries, Declaration.same_ofList hnodup hperm, ?_⟩
  show ((entries.map fun a => (a.1, Json.str a.2)).mapM (fun m => m.2.asText.map (m.1, ·)) >>=
    fun attributes => some (Declaration.ofList attributes)) = _
  rw [hentries]
  rfl

/-- So it is with all declarations of a form. -/
theorem exists_validatorsOf {l : List Declaration} {validators : List Json}
    (h : List.Forall₂ WritesDeclaration l validators) :
    ∃ l', List.Forall₂ Declaration.Same l l' ∧ validatorsOf (.arr validators) = some l' := by
  have hread : ∃ l', List.Forall₂ Declaration.Same l l' ∧
      List.Forall₂ (fun j d => declarationOf j = some d) validators l' := by
    induction h with
    | nil => exact ⟨[], .nil, .nil⟩
    | cons hwrites _ ih =>
        rcases hwrites.exists_declarationOf with ⟨d, hsame, hd⟩
        rcases ih with ⟨l', hsames, hl⟩
        exact ⟨d :: l', .cons hsame hsames, .cons hd hl⟩
  rcases hread with ⟨l', hsame, hl⟩
  exact ⟨l', hsame, Json.asList_arr hl⟩

theorem WritesDeclaration.fits {d : Declaration} {j : Json} (h : WritesDeclaration d j)
    (depth : Nat) : j.Fits (depth + 1) := by
  rcases h with ⟨entries, -, rfl⟩
  show Json.FitsMembers (entries.map fun a => (a.1, Json.str a.2)) depth
  rw [Json.fitsMembers_iff, List.forall_mem_map]
  exact fun _ _ => trivial

theorem fitsItems_of_writes {l : List Declaration} {validators : List Json}
    (h : List.Forall₂ WritesDeclaration l validators) (depth : Nat) :
    Json.FitsItems validators (depth + 1) := by
  induction h with
  | nil => trivial
  | cons hwrites _ ih => exact ⟨hwrites.fits depth, ih⟩

/-- A form is read again from either layout of a value that it is written as. -/
theorem exists_ofText {f : Form} {j : Json} (h : f.Writes j) :
    ∃ g, f.Same g ∧ ofText j.compact = .ok g ∧ ofText j.pretty = .ok g := by
  rcases h with ⟨validators, hvalidators, rfl⟩
  have hknown : ∀ m ∈ [("controls", Json.arr (f.controls.map Control.toJson)),
      ("validators", .arr validators)], ["controls", "validators"].contains m.1 = true := by
    simp
  -- A form is nested much less deeply than the reader allows.
  have hfits : Json.FitsMembers [("controls", .arr (f.controls.map Control.toJson)),
      ("validators", .arr validators)] (Json.Reader.depthLimit - 1) := by
    have hcontrols : Json.FitsItems (f.controls.map Control.toJson) (122 + 3) := by
      rw [Json.fitsItems_iff, List.forall_mem_map]
      exact fun c _ => c.fits_toJson 122
    have hrules : Json.FitsItems validators (124 + 1) := fitsItems_of_writes hvalidators 124
    exact ⟨hcontrols, hrules, trivial⟩
  rcases exists_validatorsOf hvalidators with ⟨l, hsame, hl⟩
  have hdecoded : ofJson? (.obj [("controls", .arr (f.controls.map Control.toJson)),
      ("validators", .arr validators)]) = some ⟨f.controls, l⟩ := by
    have hcontrols : controlsOf (.arr (f.controls.map Control.toJson)) = some f.controls :=
      Json.asList_map Control.ofJson?_toJson f.controls
    show (controlsOf (.arr (f.controls.map Control.toJson)) >>= fun controls =>
      validatorsOf (.arr validators) >>= fun validators => some (Form.mk controls validators)) = _
    rw [hcontrols, hl]
    rfl
  refine ⟨⟨f.controls, l⟩, ⟨rfl, hsame⟩, ?_, ?_⟩
  · rw [ofText, Json.readMembers?_compact (List.cons_ne_nil _ _) hfits hknown, Option.bind_some, hdecoded]
  · rw [ofText, Json.readMembers?_pretty (List.cons_ne_nil _ _) hfits hknown, Option.bind_some, hdecoded]

/-! ## Answers -/

/-- The forms give the same answers. -/
structure Agrees (f g : Form) : Prop where
  resolve : ∀ id, f.resolve id = g.resolve id
  read : ∀ id, f.read id = g.read id
  rules : f.DeclaresAlike g → f.rules = g.rules
  runs : f.DeclaresAlike g → f.Indistinguishable g
  /-- In every order the declarations are read alike, if none gives a name twice in the same way. -/
  alike : f.Unambiguous → f.DeclaresAlike g
  /-- And if some do, what the one form may answer in some order the other may. -/
  answers : ∀ {α : Type} (ask : Form → α) (answer : α), f.MayAnswer ask answer ↔ g.MayAnswer ask answer

theorem Same.agrees {f g : Form} (h : f.Same g) : f.Agrees g where
  resolve := h.resolve_eq
  read := h.read_eq
  rules := rules_congr
  runs halike := indistinguishable_of_seen (rules_congr halike) fun id _ => h.seen?_eq id
  alike := h.declarations.declaresAlike
  answers := h.mayAnswer_iff

/-- The form that is read from the text that a form is written as is the same, on one line or on several lines, in
whatever order the attributes of its declarations are written; and in whatever order they are read then, the same
form answers as the one that was written. -/
theorem ofText_of_writes (f : Form) (j : Json) (h : f.Writes j) :
    (∃ g, f.Same g ∧ ofText j.compact = .ok g ∧ ofText j.pretty = .ok g) ∧ ∀ g, f.Same g → f.Agrees g :=
  ⟨exists_ofText h, fun _ => Same.agrees⟩

/-- A form with two controls of one id, and texts with quotes, a backslash and a control character. -/
def awkwardForm : Form where
  controls :=
    [⟨"a", .input "radio" "\"1\"\n" true⟩, ⟨"a", .select [⟨"\\", true⟩, ⟨"\x01", false⟩]⟩]
  validators := [⟨[("validate", "int"), ("control", "a"), ("data-control", "b")], by decide +kernel⟩]

/-- The value that it is written as, with the attributes of its rule out of order. -/
def awkwardJson : Json :=
  .obj [("controls", .arr (awkwardForm.controls.map Control.toJson)),
    ("validators", .arr [.obj [("control", .str "a"), ("validate", .str "int"), ("data-control", .str "b")]])]

theorem ofText_of_writes_awkward :
    awkwardForm.Writes awkwardJson ∧
      ∃ g, ofText awkwardJson.compact = .ok g ∧ ofText awkwardJson.pretty = .ok g ∧ g.controls =
        awkwardForm.controls ∧ awkwardForm.rules = g.rules ∧ awkwardForm.Indistinguishable g := by
  have hwrites : awkwardForm.Writes awkwardJson := by
    have hdeclaration : WritesDeclaration
        ⟨[("validate", "int"), ("control", "a"), ("data-control", "b")], by decide +kernel⟩
        (.obj [("control", .str "a"), ("validate", .str "int"), ("data-control", .str "b")]) :=
      ⟨[("control", "a"), ("validate", "int"), ("data-control", "b")], .swap _ _ _, rfl⟩
    exact ⟨_, .cons hdeclaration .nil, rfl⟩
  have hnames : awkwardForm.Unambiguous := by
    unfold Unambiguous Attributes.Distinct
    decide +kernel
  obtain ⟨⟨g, hsame, hcompact, hpretty⟩, hagrees⟩ := ofText_of_writes awkwardForm awkwardJson hwrites
  have halike := (hagrees g hsame).alike hnames
  exact ⟨hwrites, g, hcompact, hpretty, hsame.controls.symm, (hagrees g hsame).rules halike,
    (hagrees g hsame).runs halike⟩

end Form
end FormValidation
