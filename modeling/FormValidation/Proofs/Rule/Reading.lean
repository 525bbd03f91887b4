import FormValidation.Proofs.Rule.Evaluation

/-!
# What a rule sees of a form

A rule names controls (`Rule.references`), and of a form it sees what reading the first control of each of
these ids gives (`Form.seen?`).  On two forms in which it sees the same (`Rule.SeesAlike`) its declaration is
checked with the same result, and it is evaluated with the same result.
-/

namespace FormValidation

theorem option_mapM_congr {α β : Type} {f g : α → Except Error β} {o : Option α}
    (h : ∀ a, o = some a → f a = g a) : o.mapM f = o.mapM g := by
  cases o with
  | none => rfl
  | some a =>
      have ha : f a = g a := h a rfl
      rw [Option.mapM_some, Option.mapM_some, ha]

/-! ## Reading a form -/

namespace Form

/-- What reading an id gives, `none` if no control has the id. -/
def seen? (f : Form) (id : String) : Option (Except Error String) :=
  (f.control? id).map fun c => c.element.read id

variable {f g : Form} {id : String}

theorem resolve_eq_seen? (f : Form) (id : String) :
    f.resolve id = if (f.seen? id).isSome then .ok id else .error (.controlNotFound id) := by
  unfold resolve seen?
  cases hc : f.control? id with
  | none => rfl
  | some c =>
      have hid : c.id = id := by simpa using List.find?_some hc
      simp [hid]

theorem read_eq_seen? (f : Form) (id : String) :
    f.read id = (f.seen? id).getD (.error (.controlNotFound id)) := by
  unfold read seen?
  cases f.control? id <;> rfl

theorem resolve_congr (h : f.seen? id = g.seen? id) : f.resolve id = g.resolve id := by
  rw [resolve_eq_seen?, resolve_eq_seen?, h]

theorem read_congr (h : f.seen? id = g.seen? id) : f.read id = g.read id := by
  rw [read_eq_seen?, read_eq_seen?, h]

end Form

/-! ## What a rule names -/

/-- The control that a comparison names. -/
def Comparison.control? (c : Comparison) : Option String :=
  match c.operand with
  | some (.control id) => some id
  | _ => none

namespace Rule

/-- The ids that a rule names: that of the control that it is about, and that of the control that it compares
with. -/
def references (r : Rule) : List String :=
  r.control.toList ++ (r.comparison.bind Comparison.control?).toList

/-- The rule sees the same in two forms. -/
def SeesAlike (r : Rule) (f g : Form) : Prop :=
  ∀ id ∈ r.references, f.seen? id = g.seen? id

variable {f g : Form} {r : Rule}

namespace SeesAlike

theorem control {id : String} (h : r.SeesAlike f g) (hid : r.control = some id) :
    f.seen? id = g.seen? id := by
  refine h id (List.mem_append_left _ ?_)
  simp [hid]

theorem operand {c : Comparison} {id : String} (h : r.SeesAlike f g) (hc : r.comparison = some c)
    (hid : c.operand = some (.control id)) : f.seen? id = g.seen? id := by
  refine h id (List.mem_append_right _ ?_)
  simp [hc, Comparison.control?, hid]

end SeesAlike

/-! ## Declarations -/

theorem checkComparison_congr (h : r.SeesAlike f g) : r.checkComparison f = r.checkComparison g := by
  unfold checkComparison
  cases r.kind.valueKind? with
  | none => rfl
  | some kind =>
      cases hc : r.comparison with
      | none => rfl
      | some c =>
          rcases hoperand : c.operand with _ | text | id
          · simp only [hoperand]
          · simp only [hoperand]
          · have hid : f.resolve id = g.resolve id := Form.resolve_congr (h.operand hc hoperand)
            simp only [hoperand, hid]

theorem checkDeclaration_congr (h : r.SeesAlike f g) :
    r.checkDeclaration f = r.checkDeclaration g := by
  have hresolve : r.control.mapM f.resolve = r.control.mapM g.resolve :=
    option_mapM_congr fun _ hid => Form.resolve_congr (h.control hid)
  unfold checkDeclaration
  rw [hresolve, checkComparison_congr h]

/-! ## Values -/

theorem value?_congr (h : r.SeesAlike f g) : r.value? f = r.value? g :=
  option_mapM_congr fun _ hid => Form.read_congr (h.control hid)

theorem readValue_congr (h : r.SeesAlike f g) :
    r.readValue f r.control = r.readValue g r.control := by
  unfold readValue
  cases hc : r.control with
  | none => rfl
  | some id => exact Form.read_congr (h.control hc)

theorem operandText_congr {c : Comparison} (h : r.SeesAlike f g) (hc : r.comparison = some c) :
    r.operandText f c = r.operandText g c := by
  unfold operandText
  rcases hoperand : c.operand with _ | text | id
  · rfl
  · rfl
  · have hid : f.seen? id = g.seen? id := h.operand hc hoperand
    show (f.resolve id >>= f.read) = (g.resolve id >>= g.read)
    rw [Form.resolve_congr hid]
    refine bind_congr_of_eq_ok ?_
    intro id' hid'
    -- A control is resolved to the id under which it was looked for.
    rcases (Form.resolve_eq_ok_iff.1 hid').2 with rfl
    exact Form.read_congr hid

/-! ## Evaluation -/

theorem matchesPattern_congr (h : r.SeesAlike f g) :
    r.matchesPattern f r.control = r.matchesPattern g r.control := by
  unfold matchesPattern
  rw [readValue_congr h]

theorem matchesKind_congr (h : r.SeesAlike f g) (l : Locale) (kind : ValueKind) :
    r.matchesKind l f kind r.control = r.matchesKind l g kind r.control := by
  unfold matchesKind
  rw [readValue_congr h]
  cases hc : r.comparison with
  | none => rfl
  | some c => simp only [operandText_congr h hc]

theorem passes_congr (h : r.SeesAlike f g) (l : Locale) :
    r.passes l f r.control = r.passes l g r.control := by
  unfold passes
  rw [readValue_congr h, matchesPattern_congr h, matchesKind_congr h, matchesKind_congr h,
    matchesKind_congr h]

theorem delegate_congr (h : r.SeesAlike f g) (registry : Registry) :
    r.delegate registry f r.control = r.delegate registry g r.control := by
  have hvalue : r.control.mapM f.read = r.control.mapM g.read := value?_congr h
  unfold delegate
  rw [hvalue]

/-- A rule is evaluated with the same result on two forms in which it sees the same. -/
theorem evaluateOn_congr (h : r.SeesAlike f g) (l : Locale) (registry : Registry) :
    r.evaluateOn l registry f r.control = r.evaluateOn l registry g r.control := by
  unfold evaluateOn
  rw [delegate_congr h, passes_congr h]

end Rule
end FormValidation
