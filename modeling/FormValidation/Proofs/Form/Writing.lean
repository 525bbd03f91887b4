import Mathlib.Data.List.Nodup
import FormValidation.Form.Basic
import FormValidation.Proofs.Text.Pieces

/-!
# Writing to a form

A text that is written to an id goes to the first control of that id.  The control stays what it is but for its
value, its check mark or the selection of its options (`Element.Revalued`), and reads as what the text comes to
for an element of its kind (`Element.ReadsBack`).  Nothing else changes; of two writes to an id the later one
counts, and writes to different ids do not meet (`Form.writingLaws`).
-/

namespace FormValidation

/-! ## Options -/

namespace SelectOption

/-- The values of options, in the order of the options. -/
def values (options : List SelectOption) : List String :=
  options.map (·.value)

def selectedValues (options : List SelectOption) : List String :=
  values (options.filter (·.selected))

/-- The values of options that are among some pieces. -/
def valuesAmong (pieces : List String) (options : List SelectOption) : List String :=
  (values options).filter (· ∈ pieces)

/-- Of different values those are kept that a part of them names, if the part names them in their order. -/
theorem filter_mem_eq_of_sublist {chosen all : List String} (h : chosen.Sublist all) (hall : all.Nodup) :
    all.filter (· ∈ chosen) = chosen := by
  induction h with
  | slnil => rfl
  | @cons chosen all value hchosen ih =>
      rcases List.nodup_cons.1 hall with ⟨hvalue, hall⟩
      have hout : value ∉ chosen := fun hmem => hvalue (hchosen.subset hmem)
      rw [List.filter_cons_of_neg (by simpa using hout)]
      exact ih hall
  | @cons_cons chosen all value hchosen ih =>
      rcases List.nodup_cons.1 hall with ⟨hvalue, hall⟩
      -- The value stands nowhere else, so for the others it makes no difference that it is named.
      have hrest : all.filter (· ∈ value :: chosen) = all.filter (· ∈ chosen) := by
        refine List.filter_congr ?_
        intro other hother
        have hne : other ≠ value := fun heq => hvalue (heq ▸ hother)
        simp [hne]
      rw [List.filter_cons_of_pos (by simp), hrest, ih hall]

/-- Of the values only the empty ones are pieces of the empty text. -/
theorem valuesAmong_empty (options : List SelectOption) :
    valuesAmong [""] options = List.replicate ((values options).count "") "" := by
  rw [valuesAmong, ← List.filter_beq]
  refine List.filter_congr ?_
  intro value _
  rw [Bool.eq_iff_iff]
  simp

/-- Values without commas, named by joining some of them, are the ones that are among the pieces. -/
theorem intercalate_valuesAmong {options : List SelectOption} {chosen pieces : List String}
    (hdistinct : (values options).Nodup) (hplain : ∀ value ∈ values options, ',' ∉ value.toList)
    (hchosen : chosen.Sublist (values options))
    (hcut : Text.IsCut ',' (",".intercalate chosen) pieces) :
    ",".intercalate (valuesAmong pieces options) = ",".intercalate chosen := by
  cases hnil : chosen with
  | nil =>
      -- The empty text is one empty piece; at most one option has that for its value.
      rw [hnil, String.intercalate_nil] at hcut
      obtain rfl : pieces = [""] := hcut.unique (Text.isCut_empty ',')
      have hcount : (values options).count "" ≤ 1 := List.nodup_iff_count_le_one.1 hdistinct ""
      rw [valuesAmong_empty]
      rcases Nat.le_one_iff_eq_zero_or_eq_one.1 hcount with hnone | hone
      · rw [hnone, List.replicate_zero]
      · rw [hone]
        simp
  | cons value rest =>
      have hself : Text.IsCut ',' (",".intercalate chosen) chosen :=
        ⟨by simp [hnil], fun piece hpiece => hplain piece (hchosen.subset hpiece), rfl⟩
      obtain rfl : pieces = chosen := hcut.unique hself
      rw [valuesAmong, filter_mem_eq_of_sublist hchosen hdistinct, hnil]

end SelectOption

/-! ## Elements -/

namespace Element

open SelectOption

/-- The types of inputs that are checked or not: `checkbox` and `radio`, in any case of their letters. -/
def Checkable (type : String) : Prop :=
  Text.lower type = "checkbox" ∨ Text.lower type = "radio"

theorem isCheckable_eq_true_iff (type : String) : isCheckable type = true ↔ Checkable type := by
  have hcheckbox : Text.lower "checkbox" = "checkbox" := by decide +kernel
  have hradio : Text.lower "radio" = "radio" := by decide +kernel
  simp [isCheckable, Checkable, Text.sameLetters, hcheckbox, hradio]

/-- The elements are the same but for what a text can be written to. -/
inductive Revalued : Element → Element → Prop where
  | checkable {type : String} (h : Checkable type) (value : String) (checked checked' : Bool) :
      Revalued (.input type value checked) (.input type value checked')
  | input {type : String} (h : ¬Checkable type) (value value' : String) (checked : Bool) :
      Revalued (.input type value checked) (.input type value' checked)
  | textarea (value value' : String) : Revalued (.textarea value) (.textarea value')
  | select {options options' : List SelectOption} (h : values options = values options') :
      Revalued (.select options) (.select options')
  | other (name : String) : Revalued (.other name) (.other name)

/-- What the element of a control with the given id reads as after a text was written to it. -/
inductive ReadsBack (id text : String) : Element → Except Error String → Prop where
  | checked {type : String} (h : Checkable type) (checked : Bool) :
      ReadsBack id text (.input type text checked) (.ok text)
  | unchecked {type value : String} (h : Checkable type) (hne : value ≠ text) (checked : Bool) :
      ReadsBack id text (.input type value checked) (.ok "")
  | input {type : String} (h : ¬Checkable type) (value : String) (checked : Bool) :
      ReadsBack id text (.input type value checked) (.ok text)
  | textarea (value : String) : ReadsBack id text (.textarea value) (.ok text)
  | select {pieces : List String} (hcut : Text.IsCut ',' text pieces) (options : List SelectOption) :
      ReadsBack id text (.select options) (.ok (",".intercalate (valuesAmong pieces options)))
  | other (name : String) : ReadsBack id text (.other name) (.error (.unsupportedElement id name))

/-- Of two texts that are written one after the other the second counts. -/
theorem write_write (element : Element) (text text' : String) :
    (element.write text).write text' = element.write text' := by
  cases element with
  | input type value checked => by_cases h : isCheckable type = true <;> simp [write, h]
  | textarea value => rfl
  | select options => simp [write, Function.comp_def]
  | other name => rfl

theorem revalued_write (element : Element) (text : String) : element.Revalued (element.write text) := by
  cases element with
  | input type value checked =>
      rw [write]
      by_cases h : isCheckable type = true
      · rw [if_pos h]
        exact .checkable ((isCheckable_eq_true_iff type).1 h) value checked _
      · rw [if_neg h]
        exact .input ((isCheckable_eq_true_iff type).not.1 h) value text checked
  | textarea value => exact .textarea value text
  | select options => exact .select (by simp [values, Function.comp_def])
  | other name => exact .other name

/-- The options that a text selects are those whose values are among its pieces. -/
theorem read_write_select (id text : String) (options : List SelectOption) :
    ((Element.select options).write text).read id =
      .ok (",".intercalate (valuesAmong (Text.split ',' text) options)) := by
  simp [write, read, valuesAmong, values, List.filter_map, Function.comp_def]

theorem readsBack_write (id text : String) (element : Element) :
    element.ReadsBack id text ((element.write text).read id) := by
  cases element with
  | input type value checked =>
      by_cases h : isCheckable type = true
      · have hchecked : ((Element.input type value checked).write text).read id =
            .ok (if value = text then value else "") := by
          by_cases heq : value = text <;> simp [write, read, h, heq]
        have hcheckable : Checkable type := (isCheckable_eq_true_iff type).1 h
        rw [hchecked]
        by_cases heq : value = text
        · subst heq
          rw [if_pos rfl]
          exact .checked hcheckable checked
        · rw [if_neg heq]
          exact .unchecked hcheckable heq checked
      · have hinput : ((Element.input type value checked).write text).read id = .ok text := by
          simp [write, read, h]
        rw [hinput]
        exact .input ((isCheckable_eq_true_iff type).not.1 h) value checked
  | textarea value => exact .textarea value
  | select options =>
      rw [read_write_select]
      exact .select (Text.isCut_split ',' text) options
  | other name => exact .other name

end Element

/-! ## Forms -/

namespace Form

open SelectOption

variable {f : Form} {id id' text : String}

/-- The first control of an id, with the controls in front of it and those behind it. -/
structure FirstOf (f : Form) (id : String) (before : List Control) (c : Control) (after : List Control) :
    Prop where
  controls : f.controls = before ++ c :: after
  others : ∀ b ∈ before, b.id ≠ id
  id_eq : c.id = id

theorem writeFirst_of_absent {controls : List Control} (h : ∀ c ∈ controls, c.id ≠ id) :
    writeFirst id text controls = controls := by
  induction controls with
  | nil => rfl
  | cons c controls ih =>
      have hc : (c.id == id) = false := beq_eq_false_iff_ne.2 (h c List.mem_cons_self)
      simp [writeFirst, hc, ih fun c hc => h c (List.mem_cons_of_mem _ hc)]

theorem writeFirst_append {before after : List Control} {c : Control} (h : ∀ b ∈ before, b.id ≠ id)
    (hc : c.id = id) :
    writeFirst id text (before ++ c :: after) = before ++ ⟨id, c.element.write text⟩ :: after := by
  induction before with
  | nil => simp [writeFirst, hc]
  | cons b before ih =>
      have hb : (b.id == id) = false := beq_eq_false_iff_ne.2 (h b List.mem_cons_self)
      simp [writeFirst, hb, ih fun b hb => h b (List.mem_cons_of_mem _ hb)]

theorem writeFirst_writeFirst (id text text' : String) (controls : List Control) :
    writeFirst id text' (writeFirst id text controls) = writeFirst id text' controls := by
  induction controls with
  | nil => rfl
  | cons c controls ih =>
      by_cases hc : c.id = id
      · simp [writeFirst, hc, Element.write_write]
      · simp [writeFirst, hc, ih]

theorem writeFirst_comm (h : id ≠ id') (text text' : String) (controls : List Control) :
    writeFirst id' text' (writeFirst id text controls) =
      writeFirst id text (writeFirst id' text' controls) := by
  induction controls with
  | nil => rfl
  | cons c controls ih =>
      by_cases hc : c.id = id
      · -- The control is the first one of the one id, and none of the other.
        have hc' : c.id ≠ id' := fun heq => h (hc.symm.trans heq)
        simp [writeFirst, hc, h]
      · by_cases hc' : c.id = id'
        · simp [writeFirst, hc', Ne.symm h]
        · simp [writeFirst, hc, hc', ih]

/-! ## What is found after a write -/

theorem find?_writeFirst (id text : String) (controls : List Control) :
    ((writeFirst id text controls).find? fun c => c.id == id) =
      (controls.find? fun c => c.id == id).map fun c => ⟨c.id, c.element.write text⟩ := by
  induction controls with
  | nil => rfl
  | cons c controls ih =>
      by_cases hc : c.id = id
      · simp [writeFirst, hc]
      · simp [writeFirst, hc, ih]

theorem find?_writeFirst_of_ne (h : id' ≠ id) (text : String) (controls : List Control) :
    ((writeFirst id text controls).find? fun c => c.id == id') = controls.find? fun c => c.id == id' := by
  induction controls with
  | nil => rfl
  | cons c controls ih =>
      by_cases hc : c.id = id
      · have hc' : (c.id == id') = false := beq_eq_false_iff_ne.2 fun heq => h (heq.symm.trans hc)
        simp [writeFirst, hc, Ne.symm h]
      · simp [writeFirst, hc, List.find?_cons, ih]

theorem control?_setValue (f : Form) (id text : String) :
    (f.setValue id text).1.control? id =
      (f.control? id).map fun c => ⟨c.id, c.element.write text⟩ :=
  find?_writeFirst id text f.controls

theorem control?_setValue_of_ne (h : id' ≠ id) (f : Form) (text : String) :
    (f.setValue id text).1.control? id' = f.control? id' :=
  find?_writeFirst_of_ne h text f.controls

theorem read_setValue {c : Control} (h : f.control? id = some c) (text : String) :
    (f.setValue id text).1.read id = (c.element.write text).read id := by
  rw [read, control?_setValue, h]
  rfl

theorem FirstOf.control? {before after : List Control} {c : Control} (h : f.FirstOf id before c after) :
    f.control? id = some c := by
  refine List.find?_eq_some_iff_append.2 ⟨by simpa using h.id_eq, before, after, h.controls, ?_⟩
  intro b hb
  simpa using h.others b hb

/-! ## The laws of writing -/

/-- What writing to a form does. -/
structure WritingLaws (f : Form) : Prop where
  /-- The flag tells whether there is a control with the id. -/
  found_iff : ∀ id text, (f.setValue id text).2 = true ↔ ∃ c ∈ f.controls, c.id = id
  /-- Without one nothing is written. -/
  unchanged : ∀ id text, (∀ c ∈ f.controls, c.id ≠ id) → (f.setValue id text).1 = f
  /-- The first control of the id is written to, and all else stays. -/
  changed : ∀ id text before c after, f.FirstOf id before c after →
    ∃ element, c.element.Revalued element ∧
      (f.setValue id text).1 = ⟨before ++ ⟨id, element⟩ :: after, f.validators⟩
  /-- Of two writes to an id the second counts. -/
  overwritten : ∀ id text text', (f.setValue id text).1.setValue id text' = f.setValue id text'
  /-- Writes to different ids can be done in any order. -/
  commuting : ∀ id id' text text', id ≠ id' →
    ((f.setValue id text).1.setValue id' text').1 = ((f.setValue id' text').1.setValue id text).1
  /-- What is read back depends on the element. -/
  readBack : ∀ id text before c after, f.FirstOf id before c after →
    c.element.ReadsBack id text ((f.setValue id text).1.read id)
  /-- Some of the different values of a select are read back if they hold no comma. -/
  selected : ∀ id before options after chosen, f.FirstOf id before ⟨id, .select options⟩ after →
    (values options).Nodup → (∀ value ∈ values options, ',' ∉ value.toList) →
    chosen.Sublist (values options) →
      (f.setValue id (",".intercalate chosen)).1.read id = .ok (",".intercalate chosen)

theorem setValue_setValue (f : Form) (id text text' : String) :
    (f.setValue id text).1.setValue id text' = f.setValue id text' := by
  have hfound : ((f.setValue id text).1.control? id).isSome = (f.control? id).isSome := by
    rw [control?_setValue, Option.isSome_map]
  have hcontrols : writeFirst id text' (f.setValue id text).1.controls = writeFirst id text' f.controls :=
    writeFirst_writeFirst id text text' f.controls
  rw [setValue, hfound, hcontrols]
  rfl

/-- A form takes and gives values as the laws of writing say. -/
theorem writingLaws (f : Form) : f.WritingLaws where
  found_iff id text := by
    show (f.controls.find? fun c => c.id == id).isSome = true ↔ _
    simp [List.find?_isSome]
  unchanged id text h := by
    rw [setValue, writeFirst_of_absent h]
  changed id text before c after h := by
    refine ⟨c.element.write text, c.element.revalued_write text, ?_⟩
    rw [setValue, h.controls, writeFirst_append h.others h.id_eq]
  overwritten := setValue_setValue f
  commuting id id' text text' h := by
    show (⟨writeFirst id' text' (writeFirst id text f.controls), f.validators⟩ : Form) = _
    rw [writeFirst_comm h]
    rfl
  readBack id text before c after h := by
    rw [read_setValue h.control?]
    exact c.element.readsBack_write id text
  selected id before options after chosen h hdistinct hplain hchosen := by
    have hcut := Text.isCut_split ',' (",".intercalate chosen)
    rw [read_setValue h.control?, Element.read_write_select,
      intercalate_valuesAmong hdistinct hplain hchosen hcut]

/-- A form with a choice, one of whose options has no text, and with a second control of the same id. -/
def choiceForm : Form where
  controls :=
    [⟨"plan", .input "RADIO" "pro" false⟩, ⟨"size", .select [⟨"s", true⟩, ⟨"", false⟩, ⟨"l", false⟩]⟩,
      ⟨"size", .textarea "m"⟩]
  validators := []

theorem writingLaws_choice :
    (choiceForm.setValue "size" ",l").1.read "size" = .ok ",l" ∧
      ((choiceForm.setValue "plan" "pro").1.setValue "size" "s").1 =
        ((choiceForm.setValue "size" "s").1.setValue "plan" "pro").1 := by
  let options : List SelectOption := [⟨"s", true⟩, ⟨"", false⟩, ⟨"l", false⟩]
  have hfirst : choiceForm.FirstOf "size" [⟨"plan", .input "RADIO" "pro" false⟩] ⟨"size", .select options⟩
      [⟨"size", .textarea "m"⟩] := ⟨rfl, by decide, rfl⟩
  have hchosen : ["", "l"].Sublist (values options) := by decide
  have hjoined : ",".intercalate ["", "l"] = ",l" := by decide +kernel
  have hread := (writingLaws choiceForm).selected _ _ _ _ _ hfirst (by decide) (by decide) hchosen
  rw [hjoined] at hread
  exact ⟨hread, (writingLaws choiceForm).commuting _ _ _ _ (by decide)⟩

end Form
end FormValidation
