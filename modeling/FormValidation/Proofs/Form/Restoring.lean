import FormValidation.Proofs.Engine.Noninterference
import FormValidation.Proofs.Form.Writing

/-!
# Writing back what was read

A select gives the values of its selected options with commas between them, and takes a text by its pieces, so it
need not take back what it gave: the values may hold commas, and options that are not selected may have the value
of one that is.  `Element.Restorable` says of which elements writing back changes nothing that can be read, and
`Form.restored_iff` that it is of these only.
-/

namespace FormValidation

/-! ## Selections -/

namespace SelectOption

variable {options : List SelectOption} {pieces : List String}

/-- The options that a text selects give that text only if their values are its pieces, or if there are none and
the text is empty. -/
theorem intercalate_valuesAmong_eq_iff {text : String} (hcut : Text.IsCut ',' text pieces) :
    ",".intercalate (valuesAmong pieces options) = text ↔
      valuesAmong pieces options = pieces ∨ valuesAmong pieces options = [] ∧ text = "" := by
  constructor
  · intro h
    by_cases hnil : valuesAmong pieces options = []
    · -- Without any value the text is empty.
      rw [hnil] at h
      exact .inr ⟨hnil, h.symm⟩
    · -- Being pieces, the values hold no comma, and a text is cut in one way only.
      have hmem : ∀ value ∈ valuesAmong pieces options, value ∈ pieces := by
        intro value hvalue
        simpa using (List.mem_filter.1 hvalue).2
      have hself : Text.IsCut ',' text (valuesAmong pieces options) :=
        ⟨hnil, fun value hvalue => hcut.apart value (hmem value hvalue), h⟩
      exact .inl (hself.unique hcut)
  · rintro (h | ⟨hnil, rfl⟩)
    · rw [h]
      exact hcut.joined
    · rw [hnil]
      rfl

theorem mem_selectedValues_iff {value : String} :
    value ∈ selectedValues options ↔ ∃ o ∈ options, o.selected = true ∧ o.value = value := by
  simp [selectedValues, values, and_assoc]

/-- The options with the values of selected ones are the selected ones if no other shares its value with one. -/
theorem valuesAmong_selectedValues_iff :
    valuesAmong (selectedValues options) options = selectedValues options ↔
      ∀ o ∈ options, ∀ o' ∈ options, o.selected = true → o'.value = o.value → o'.selected = true := by
  let named : SelectOption → Bool := fun o => o.value ∈ selectedValues options
  have hamong : valuesAmong (selectedValues options) options = values (options.filter named) := by
    simp [valuesAmong, values, List.filter_map, Function.comp_def, named]
  have hnamed : ∀ o ∈ options, o.selected = true → named o = true := by
    intro o ho hselected
    exact decide_eq_true (mem_selectedValues_iff.2 ⟨o, ho, hselected, rfl⟩)
  rw [hamong]
  constructor
  · intro h o ho o' ho' hselected hvalue
    have hnested : options.filter (·.selected) = (options.filter named).filter (·.selected) := by
      rw [List.filter_filter]
      refine List.filter_congr ?_
      intro a ha
      cases hsel : a.selected with
      | false => rfl
      | true => exact (hnamed a ha hsel).symm
    -- As many options are named as are selected, and the selected ones are among the named ones.
    have hlength : ((options.filter named).filter (·.selected)).length = (options.filter named).length := by
      rw [← hnested]
      simpa [selectedValues, values] using (congrArg List.length h).symm
    have hall := List.length_filter_eq_length_iff.1 hlength
    have hmem : o' ∈ options.filter named :=
      List.mem_filter.2 ⟨ho', decide_eq_true (mem_selectedValues_iff.2 ⟨o, ho, hselected, hvalue.symm⟩)⟩
    exact hall o' hmem
  · intro h
    have hsame : options.filter named = options.filter (·.selected) := by
      refine List.filter_congr ?_
      intro o' ho'
      rw [Bool.eq_iff_iff]
      constructor
      · intro hname
        rcases mem_selectedValues_iff.1 (of_decide_eq_true hname) with ⟨o, ho, hselected, hvalue⟩
        exact h o ho o' ho' hselected hvalue.symm
      · exact hnamed o' ho'
    rw [hsame]
    rfl

end SelectOption

/-! ## Elements -/

namespace Element

open SelectOption

/-- The element takes back what it gives: it is no select, or the pieces of the text are just the values that are
among them, or none is and the text is empty. -/
inductive Restorable : Element → Prop where
  | input (type value : String) (checked : Bool) : Restorable (.input type value checked)
  | textarea (value : String) : Restorable (.textarea value)
  | select {options : List SelectOption} {pieces : List String}
      (hcut : Text.IsCut ',' (",".intercalate (selectedValues options)) pieces)
      (h : valuesAmong pieces options = pieces ∨
        valuesAmong pieces options = [] ∧ ",".intercalate (selectedValues options) = "") :
      Restorable (.select options)

theorem restorable_select_iff {options : List SelectOption} {pieces : List String}
    (hcut : Text.IsCut ',' (",".intercalate (selectedValues options)) pieces) :
    (Element.select options).Restorable ↔
      valuesAmong pieces options = pieces ∨
        valuesAmong pieces options = [] ∧ ",".intercalate (selectedValues options) = "" := by
  constructor
  · rintro (_ | _ | ⟨hcut', h⟩)
    rwa [hcut.unique hcut']
  · exact .select hcut

/-- Writing what was read leaves what is read as it is if the element is restorable, and only then. -/
theorem read_write_iff {element : Element} {id text : String} (h : element.read id = .ok text) :
    (element.write text).read id = .ok text ↔ element.Restorable := by
  cases element with
  | input type value checked =>
      refine iff_of_true ?_ (.input type value checked)
      by_cases hcheckable : isCheckable type = true
      · cases checked with
        | true =>
            obtain rfl : value = text := by simpa [read] using h
            simp [write, read]
        | false =>
            -- It reads as empty, and does so after it was checked for having that value.
            obtain rfl : "" = text := by simpa [read, hcheckable] using h
            by_cases hempty : value = "" <;> simp [write, read, hcheckable, hempty]
      · obtain rfl : value = text := by simpa [read, hcheckable] using h
        simp [write, read, hcheckable]
  | textarea value =>
      obtain rfl : value = text := by simpa [read] using h
      exact iff_of_true rfl (.textarea value)
  | select options =>
      obtain rfl : ",".intercalate (selectedValues options) = text := by
        simpa [read, selectedValues, values] using h
      have hcut := Text.isCut_split ',' (",".intercalate (selectedValues options))
      rw [read_write_select, Except.ok.injEq, intercalate_valuesAmong_eq_iff hcut, restorable_select_iff hcut]
  | other name => cases h

/-- A select whose values hold no comma is restorable if no option shares its value with a selected one without
being selected, and, where none is selected, at most one has the empty value. -/
theorem restorable_select_iff_of_plain {options : List SelectOption}
    (hplain : ∀ value ∈ values options, ',' ∉ value.toList) :
    (Element.select options).Restorable ↔
      (∀ o ∈ options, ∀ o' ∈ options, o.selected = true → o'.value = o.value → o'.selected = true) ∧
        ((∀ o ∈ options, o.selected = false) → (values options).count "" ≤ 1) := by
  by_cases hnil : selectedValues options = []
  · have hnone : ∀ o ∈ options, o.selected = false := by simpa [selectedValues, values] using hnil
    have htext : ",".intercalate (selectedValues options) = "" := by rw [hnil, String.intercalate_nil]
    have hempty : Text.IsCut ',' (",".intercalate (selectedValues options)) [""] := by
      rw [htext]
      exact Text.isCut_empty ','
    have hvacuous : ∀ o ∈ options, ∀ o' ∈ options,
        o.selected = true → o'.value = o.value → o'.selected = true := by
      intro o ho o' _ hselected
      simp [hnone o ho] at hselected
    rw [restorable_select_iff hempty, valuesAmong_empty]
    generalize (values options).count "" = n
    -- No empty value leaves nothing selected, and one leaves the empty text.
    have hcount : (List.replicate n "" = [""] ∨ List.replicate n "" = []) ↔ n ≤ 1 := by
      rcases n with _ | _ | n
      · simp
      · simp
      · simp [List.replicate_succ]
    rw [and_iff_left htext, hcount]
    constructor
    · intro hle
      exact ⟨hvacuous, fun _ => hle⟩
    · rintro ⟨-, hle⟩
      exact hle hnone
  · have hself : Text.IsCut ',' (",".intercalate (selectedValues options)) (selectedValues options) := by
      refine ⟨hnil, ?_, rfl⟩
      intro value hvalue
      rcases mem_selectedValues_iff.1 hvalue with ⟨o, ho, -, rfl⟩
      exact hplain o.value (List.mem_map_of_mem ho)
    rcases List.exists_mem_of_ne_nil _ hnil with ⟨value, hvalue⟩
    rcases mem_selectedValues_iff.1 hvalue with ⟨o, ho, hselected, rfl⟩
    have hsome : ¬∀ o ∈ options, o.selected = false := by
      intro hnone
      simp [hnone o ho] at hselected
    have hne : valuesAmong (selectedValues options) options ≠ [] :=
      List.ne_nil_of_mem (List.mem_filter.2 ⟨List.mem_map_of_mem ho, by simpa using hvalue⟩)
    rw [restorable_select_iff hself, valuesAmong_selectedValues_iff]
    simp [hne, hsome]

end Element

/-! ## Forms -/

namespace Form

open SelectOption

variable {f : Form} {id text : String}

/-- The first control of the id takes back what it gives. -/
def Restorable (f : Form) (id : String) : Prop :=
  ∃ c, f.control? id = some c ∧ c.element.Restorable

/-- What the controls of a form read as, one after the other. -/
def readings (f : Form) : List (Except Error String) :=
  f.controls.map fun c => c.element.read c.id

theorem exists_control?_of_read (h : f.read id = .ok text) :
    ∃ c, f.control? id = some c ∧ c.id = id ∧ c.element.read id = .ok text := by
  rw [read] at h
  cases hc : f.control? id with
  | none => simp [hc] at h
  | some c =>
      have hid : c.id = id := by simpa using List.find?_some hc
      exact ⟨c, rfl, hid, by simpa [hc] using h⟩

/-- The id reads as before if its control takes back what it gives, and only then. -/
theorem read_setValue_iff (h : f.read id = .ok text) :
    (f.setValue id text).1.read id = .ok text ↔ f.Restorable id := by
  rcases exists_control?_of_read h with ⟨c, hc, -, hread⟩
  have hrestorable : f.Restorable id ↔ c.element.Restorable := by simp [Restorable, hc]
  rw [read_setValue hc, hrestorable]
  exact Element.read_write_iff hread

theorem seen?_setValue (h : f.read id = .ok text) (hrestorable : f.Restorable id) (id' : String) :
    (f.setValue id text).1.seen? id' = f.seen? id' := by
  by_cases hid : id' = id
  · subst hid
    rcases exists_control?_of_read h with ⟨c, hc, -, hread⟩
    have hback : (c.element.write text).read id' = .ok text := by
      rw [← read_setValue hc]
      exact (read_setValue_iff h).2 hrestorable
    simp [seen?, control?_setValue, hc, hread, hback]
  · rw [seen?, seen?, control?_setValue_of_ne hid]

/-- Only the control that is written to can read as something else. -/
theorem readings_setValue_iff (h : f.read id = .ok text) :
    (f.setValue id text).1.readings = f.readings ↔ f.Restorable id := by
  rcases exists_control?_of_read h with ⟨c, hc, hid, hread⟩
  rcases List.find?_eq_some_iff_append.1 hc with ⟨-, before, after, hcontrols, hothers⟩
  have hbefore : ∀ b ∈ before, b.id ≠ id := by simpa using hothers
  have hwritten : (f.setValue id text).1.controls =
      before ++ ⟨id, c.element.write text⟩ :: after := by
    rw [setValue, hcontrols, writeFirst_append hbefore hid]
  rw [← read_setValue_iff h, read_setValue hc, readings, readings, hwritten, hcontrols]
  simp [hid, hread]

/-- After what an id reads as was written to it the controls read as before, and so do the ids, if the first
control of the id takes back what it gives, and only then; no run tells the form from the one before.  A select
whose values hold no comma takes its text back if no option shares its value with a selected one without being
selected and, where none is selected, at most one has the empty value. -/
theorem restored_iff (h : f.read id = .ok text) :
    ((f.setValue id text).1.readings = f.readings ↔ f.Restorable id) ∧
      ((∀ id', (f.setValue id text).1.read id' = f.read id') ↔ f.Restorable id) ∧
      (f.Restorable id → f.Indistinguishable (f.setValue id text).1) ∧
      ∀ before options after, f.FirstOf id before ⟨id, .select options⟩ after →
        (∀ value ∈ values options, ',' ∉ value.toList) →
          (f.Restorable id ↔
            (∀ o ∈ options, ∀ o' ∈ options, o.selected = true → o'.value = o.value → o'.selected = true) ∧
              ((∀ o ∈ options, o.selected = false) → (values options).count "" ≤ 1)) := by
  refine ⟨readings_setValue_iff h, ⟨?_, ?_⟩, ?_, ?_⟩
  · intro hall
    rw [← read_setValue_iff h, hall id, h]
  · intro hrestorable id'
    exact read_congr (seen?_setValue h hrestorable id')
  · intro hrestorable
    refine indistinguishable_of_seen rfl ?_
    intro id' _
    exact (seen?_setValue h hrestorable id').symm
  · intro before options after hfirst hplain
    rw [← Element.restorable_select_iff_of_plain hplain]
    simp [Restorable, hfirst.control?]

/-- A form with a select whose text selects other options with the same text, and one with an option twice. -/
def mergedForm : Form where
  controls :=
    [⟨"tags", .select [⟨"a,b", true⟩, ⟨"a", false⟩, ⟨"b", false⟩]⟩,
      ⟨"size", .select [⟨"s", true⟩, ⟨"l", false⟩, ⟨"s", false⟩]⟩]
  validators := [.ofList [("validate", "required"), ("control", "tags"), ("message", "no tags")]]

theorem restored_iff_merged :
    mergedForm.read "tags" = .ok "a,b" ∧ mergedForm.Restorable "tags" ∧
      (mergedForm.setValue "tags" "a,b").1 ≠ mergedForm ∧
      mergedForm.Indistinguishable (mergedForm.setValue "tags" "a,b").1 ∧
      mergedForm.read "size" = .ok "s" ∧ ¬mergedForm.Restorable "size" := by
  have hread : mergedForm.read "tags" = .ok "a,b" := by decide +kernel
  have hreadings : (mergedForm.setValue "tags" "a,b").1.readings = mergedForm.readings := by decide +kernel
  have hrestorable : mergedForm.Restorable "tags" := (restored_iff hread).1.1 hreadings
  have hchanged : (mergedForm.setValue "tags" "a,b").1 ≠ mergedForm := by
    intro h
    have hcontrols := congrArg Form.controls h
    revert hcontrols
    decide +kernel
  have hsize : mergedForm.read "size" = .ok "s" := by decide +kernel
  let tags : Control := ⟨"tags", .select [⟨"a,b", true⟩, ⟨"a", false⟩, ⟨"b", false⟩]⟩
  let sizes : List SelectOption := [⟨"s", true⟩, ⟨"l", false⟩, ⟨"s", false⟩]
  have hfirst : mergedForm.FirstOf "size" [tags] ⟨"size", .select sizes⟩ [] := ⟨rfl, by decide, rfl⟩
  have hplain := (restored_iff hsize).2.2.2 _ _ _ hfirst (by decide)
  refine ⟨hread, hrestorable, hchanged, (restored_iff hread).2.2.1 hrestorable, hsize, ?_⟩
  intro h
  have halone := (hplain.1 h).1
  revert halone
  decide

/-- A form with a select that gives the value of an option with a comma in it. -/
def commaForm : Form where
  controls := [⟨"tags", .select [⟨"a,b", true⟩, ⟨"c", false⟩]⟩]
  validators := [.ofList [("validate", "required"), ("control", "tags"), ("message", "no tags")]]

/-- What was written back is lost with the comma, and a run that succeeded fails. -/
theorem read_setValue_comma :
    commaForm.read "tags" = .ok "a,b" ∧
      (commaForm.setValue "tags" "a,b").1.read "tags" = .ok "" ∧
      (Engine.validate {} commaForm none).2 = .ok ⟨true, []⟩ ∧
      (Engine.validate {} (commaForm.setValue "tags" "a,b").1 none).2 = .ok ⟨false, ["no tags"]⟩ ∧
      ¬∀ (f : Form) (id text : String), f.read id = .ok text →
        ∀ id', (f.setValue id text).1.read id' = f.read id' := by
  have hread : commaForm.read "tags" = .ok "a,b" := by decide +kernel
  have hlost : (commaForm.setValue "tags" "a,b").1.read "tags" = .ok "" := by decide +kernel
  refine ⟨hread, hlost, by decide +kernel, by decide +kernel, ?_⟩
  intro h
  have hback := h commaForm "tags" "a,b" hread "tags"
  rw [hlost, hread] at hback
  revert hback
  decide

end Form
end FormValidation
