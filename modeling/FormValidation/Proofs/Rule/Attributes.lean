import Mathlib.Data.List.Induction
import Mathlib.Data.List.Nodup
import FormValidation.Proofs.Text.Spelling
import FormValidation.Rule.Attributes

/-!
# Attributes in any order and spelling

A known name is found in exactly the texts that spell it, plainly or behind `data-`
(`AttributeName.ofText_eq_iff`).  What counts for a name is the value that was given behind `data-`, or else the
one that was given without (`Attributes.Gives`).  If no name is given twice in the same way, that does not depend
on the order in which the attributes are taken in (`value?_eq_some_iff`, `value?_perm`).  If one is, the last value
counts (`get?_normalized`), so that attributes say the same in two orders if each name has its values in the same
order (`Attributes.ReadAlike`).
-/

namespace FormValidation

/-! ## Names -/

namespace AttributeName

/-- The name as it is written plainly. -/
def text (n : AttributeName) : String :=
  if n.prefixed then "data-" ++ n.name else n.name

/-- The text is the plain name but for the case of letters and for white space around it. -/
def SpelledBy (n : AttributeName) (text : String) : Prop :=
  Text.Spells text n.text

end AttributeName

namespace Attributes

/-- The names that mean something. -/
def known : List String :=
  ["validate", "control", "message", "enabled", "validationgroup", "operator", "comparevalue",
    "comparecontrol", "comparemaxvalue", "pattern", "function"]

theorem isPrefixOf?_of_known :
    ∀ name ∈ known, "data-".toList.isPrefixOf? name.toList = none := by
  decide +kernel

theorem isSolid_of_known : ∀ name ∈ known, Text.IsSolid name := by
  decide +kernel

theorem lower_of_known : ∀ name ∈ known, Text.lower name = name := by
  decide +kernel

end Attributes

namespace AttributeName

open Attributes

theorem isSolid_text {name : String} (hname : name ∈ known) (behind : Bool) :
    Text.IsSolid (text ⟨name, behind⟩) := by
  have hsolid : Text.IsSolid name := isSolid_of_known name hname
  have hdata : Text.IsSolid "data-" := by decide +kernel
  cases behind with
  | false => exact hsolid
  | true =>
      intro c hc
      have hmem : c ∈ "data-".toList ++ name.toList := by
        rw [← String.toList_append]
        exact hc
      rcases List.mem_append.1 hmem with hc | hc
      · exact hdata c hc
      · exact hsolid c hc

theorem ofText_of_isPrefixOf? {text : String} {rest : List Char}
    (h : "data-".toList.isPrefixOf? (Text.lower (Text.trim text)).toList = some rest) :
    ofText text = ⟨String.ofList rest, true⟩ := by
  unfold ofText
  dsimp only
  rw [h]

theorem ofText_of_isPrefixOf?_eq_none {text : String}
    (h : "data-".toList.isPrefixOf? (Text.lower (Text.trim text)).toList = none) :
    ofText text = ⟨Text.lower (Text.trim text), false⟩ := by
  unfold ofText
  dsimp only
  rw [h]

/-- What a text spells is what it is, trimmed and in lower case. -/
theorem text_ofText (text : String) : (ofText text).text = Text.lower (Text.trim text) := by
  cases hrest : "data-".toList.isPrefixOf? (Text.lower (Text.trim text)).toList with
  | none => rw [ofText_of_isPrefixOf?_eq_none hrest, AttributeName.text, if_neg Bool.false_ne_true]
  | some rest =>
      have happend := List.isPrefixOf?_eq_some_iff_append_eq.1 hrest
      rw [ofText_of_isPrefixOf? hrest, AttributeName.text, if_pos rfl, ← String.toList_inj, ← happend,
        String.toList_append]
      exact congrArg ("data-".toList ++ ·) String.toList_ofList

/-- A known name is found in a text exactly if the text spells it. -/
theorem ofText_eq_iff {name : String} (hname : name ∈ known) (behind : Bool) (text : String) :
    ofText text = ⟨name, behind⟩ ↔ SpelledBy ⟨name, behind⟩ text := by
  rw [SpelledBy, Text.spells_iff (isSolid_text hname behind)]
  constructor
  · intro h
    rw [← h, text_ofText]
  · intro h
    cases behind with
    | false =>
        have hsame : Text.lower (Text.trim text) = name := h
        have hrest : "data-".toList.isPrefixOf? (Text.lower (Text.trim text)).toList = none := by
          rw [hsame]
          exact isPrefixOf?_of_known name hname
        rw [ofText_of_isPrefixOf?_eq_none hrest, hsame]
    | true =>
        have hsame : Text.lower (Text.trim text) = "data-" ++ name := h
        have hrest : "data-".toList.isPrefixOf? (Text.lower (Text.trim text)).toList =
            some name.toList := by
          rw [hsame, String.toList_append]
          exact List.isPrefixOf?_eq_some_iff_append_eq.2 rfl
        rw [ofText_of_isPrefixOf? hrest, String.ofList_toList]

end AttributeName

/-! ## Values by name -/

namespace Attributes

variable {attributes : Attributes} {name text : String}

theorem normalized_concat (attributes : Attributes) (a : String × String) :
    normalized (attributes ++ [a]) = take attributes.normalized a := by
  simp [normalized]

theorem get?_take (given : NameMap Given) (a : String × String) (name : String) :
    (take given a).get? name =
      if (AttributeName.ofText a.1).name ≠ name then given.get? name
      else if (AttributeName.ofText a.1).prefixed = false ∧ (given.get? name).any (·.prefixed) then
        given.get? name
      else some ⟨a.2, (AttributeName.ofText a.1).prefixed⟩ := by
  unfold take
  generalize AttributeName.ofText a.1 = spelled
  by_cases hname : spelled.name = name
  · subst hname
    cases hkept : (given.get? spelled.name).any (·.prefixed) <;> cases hprefixed : spelled.prefixed <;>
      simp [hkept, hprefixed, NameMap.get?_insert]
  · rw [if_pos hname]
    dsimp only
    split
    · rfl
    · rw [NameMap.get?_insert, if_neg hname]

/-- What is left for a name was given for it. -/
theorem mem_of_get?_normalized {g : Given} (h : attributes.normalized.get? name = some g) :
    ∃ a ∈ attributes, AttributeName.ofText a.1 = ⟨name, g.prefixed⟩ ∧ a.2 = g.text := by
  induction attributes using List.reverseRecOn with
  | nil => simp [normalized] at h
  | append_singleton attributes a ih =>
      -- The last attribute is taken last, and may leave what was given before.
      have hearlier : (normalized attributes).get? name = some g → ∃ b ∈ attributes ++ [a],
          AttributeName.ofText b.1 = ⟨name, g.prefixed⟩ ∧ b.2 = g.text := by
        intro hg
        rcases ih hg with ⟨b, hb, hname, htext⟩
        exact ⟨b, List.mem_append_left _ hb, hname, htext⟩
      rw [normalized_concat, get?_take] at h
      split at h
      · exact hearlier h
      · split at h
        · exact hearlier h
        · rename_i hname _
          have hspelled : (AttributeName.ofText a.1).name = name := by simpa using hname
          cases h
          exact ⟨a, by simp, by rw [← hspelled], rfl⟩

/-- A name that was given has a value left, and one behind `data-` if it was given so. -/
theorem exists_get?_normalized {a : String × String} (ha : a ∈ attributes) {behind : Bool}
    (hname : AttributeName.ofText a.1 = ⟨name, behind⟩) :
    ∃ g, attributes.normalized.get? name = some g ∧ (behind = true → g.prefixed = true) := by
  induction attributes using List.reverseRecOn with
  | nil => simp at ha
  | append_singleton attributes b ih =>
      rw [normalized_concat, get?_take]
      rcases List.mem_append.1 ha with ha | ha
      · rcases ih ha with ⟨g, hg, hbehind⟩
        split
        · exact ⟨g, hg, hbehind⟩
        · split
          · exact ⟨g, hg, hbehind⟩
          · rename_i hkept
            -- Only an attribute behind `data-` takes the place of another one behind `data-`.
            refine ⟨_, rfl, ?_⟩
            intro h
            by_contra hbare
            exact hkept ⟨by simpa using hbare, by simp [hg, hbehind h]⟩
      · obtain rfl : a = b := by simpa using ha
        rw [hname]
        cases hkept : ((normalized attributes).get? name).any (·.prefixed) with
        | false => exact ⟨⟨a.2, behind⟩, by simp, id⟩
        | true =>
            rcases (Option.any_eq_true _ _).1 hkept with ⟨g, hg, hprefixed⟩
            cases behind with
            | false => exact ⟨g, by simp [hg], by simp⟩
            | true => exact ⟨⟨a.2, true⟩, by simp, id⟩

/-- The value that counts for a name: one given behind `data-`, or, if there is none, one given without. -/
inductive Gives (attributes : Attributes) (name : String) : String → Prop where
  | behind {a : String × String} (ha : a ∈ attributes)
      (h : AttributeName.ofText a.1 = ⟨name, true⟩) : Gives attributes name a.2
  | bare {a : String × String} (ha : a ∈ attributes)
      (h : AttributeName.ofText a.1 = ⟨name, false⟩)
      (hnone : ∀ b ∈ attributes, AttributeName.ofText b.1 ≠ ⟨name, true⟩) : Gives attributes name a.2

/-- No two attributes spell the same name in the same way. -/
def Distinct (attributes : Attributes) : Prop :=
  (attributes.map fun a => AttributeName.ofText a.1).Nodup

theorem gives_of_value? (h : attributes.value? name = some text) : attributes.Gives name text := by
  rcases Option.map_eq_some_iff.1 h with ⟨g, hg, rfl⟩
  rcases mem_of_get?_normalized hg with ⟨a, ha, hname, htext⟩
  rw [← htext]
  cases hprefixed : g.prefixed with
  | true => exact .behind ha (hname.trans (by rw [hprefixed]))
  | false =>
      refine .bare ha (hname.trans (by rw [hprefixed])) ?_
      intro b hb hbehind
      rcases exists_get?_normalized hb hbehind with ⟨g', hg', hprefixed'⟩
      obtain rfl : g = g' := by simpa [hg] using hg'
      simp [hprefixed] at hprefixed'

theorem exists_value? {a : String × String} (ha : a ∈ attributes)
    (hname : (AttributeName.ofText a.1).name = name) : ∃ text, attributes.value? name = some text := by
  have hspelled : AttributeName.ofText a.1 = ⟨name, (AttributeName.ofText a.1).prefixed⟩ := by
    rw [← hname]
  rcases exists_get?_normalized ha hspelled with ⟨g, hg, -⟩
  exact ⟨g.text, by simp [value?, hg]⟩

theorem Distinct.eq_of_gives (h : attributes.Distinct) {text' : String}
    (hg : attributes.Gives name text) (hg' : attributes.Gives name text') : text = text' := by
  -- Values given in the same way come from one attribute, and a bare one only counts where it is alone.
  have hsame : ∀ {a b : String × String}, a ∈ attributes → b ∈ attributes →
      AttributeName.ofText a.1 = AttributeName.ofText b.1 → a = b :=
    fun ha hb hname => List.inj_on_of_nodup_map h ha hb hname
  cases hg with
  | behind ha hname =>
      cases hg' with
      | behind hb hname' => rw [hsame ha hb (hname.trans hname'.symm)]
      | bare hb hname' hnone => exact absurd hname (hnone _ ha)
  | bare ha hname hnone =>
      cases hg' with
      | behind hb hname' => exact absurd hname' (hnone _ hb)
      | bare hb hname' hnone' => rw [hsame ha hb (hname.trans hname'.symm)]

/-- Where no name is given twice in the same way, the values that count are found. -/
theorem value?_eq_some_iff (h : attributes.Distinct) (name text : String) :
    attributes.value? name = some text ↔ attributes.Gives name text := by
  constructor
  · exact gives_of_value?
  · intro hg
    have hgiven : ∃ a ∈ attributes, (AttributeName.ofText a.1).name = name := by
      cases hg with
      | behind ha hname => exact ⟨_, ha, by rw [hname]⟩
      | bare ha hname hnone => exact ⟨_, ha, by rw [hname]⟩
    rcases hgiven with ⟨a, ha, hname⟩
    rcases exists_value? ha hname with ⟨text', htext'⟩
    rw [htext', h.eq_of_gives hg (gives_of_value? htext')]

theorem Gives.perm {attributes' : Attributes} (h : attributes.Gives name text)
    (hperm : attributes.Perm attributes') : attributes'.Gives name text := by
  cases h with
  | behind ha hname => exact .behind (hperm.mem_iff.1 ha) hname
  | bare ha hname hnone =>
      exact .bare (hperm.mem_iff.1 ha) hname fun b hb => hnone b (hperm.mem_iff.2 hb)

theorem Distinct.perm {attributes' : Attributes} (h : attributes.Distinct)
    (hperm : attributes.Perm attributes') : attributes'.Distinct :=
  (hperm.map _).nodup_iff.1 h

/-- Any way of finding the values that count finds what is found in them in any order. -/
theorem value?_perm (h : attributes.Distinct) {attributes' : Attributes}
    (hperm : attributes.Perm attributes') {find? : String → Option String}
    (hfind : ∀ name text, find? name = some text ↔ attributes.Gives name text) :
    attributes'.value? = find? := by
  funext name
  refine Option.ext ?_
  intro text
  rw [value?_eq_some_iff (h.perm hperm), hfind]
  exact ⟨fun hg => hg.perm hperm.symm, fun hg => hg.perm hperm⟩

/-! ## Attributes that are read alike -/

/-- The attributes that give a name in one way, in the order in which they are read. -/
def giving (attributes : Attributes) (n : AttributeName) : Attributes :=
  attributes.filter fun a => AttributeName.ofText a.1 = n

theorem giving_concat (attributes : Attributes) (a : String × String) (n : AttributeName) :
    giving (attributes ++ [a]) n =
      if AttributeName.ofText a.1 = n then attributes.giving n ++ [a] else attributes.giving n := by
  rw [giving, List.filter_append, List.filter_singleton, giving]
  by_cases h : AttributeName.ofText a.1 = n <;> simp [h]

/-- What is left for a name is the last value given behind `data-`, or, if there is none, the last one given
without. -/
theorem get?_normalized (attributes : Attributes) (name : String) :
    attributes.normalized.get? name =
      ((attributes.giving ⟨name, true⟩).getLast?.map fun a => Given.mk a.2 true).or
        ((attributes.giving ⟨name, false⟩).getLast?.map fun a => Given.mk a.2 false) := by
  induction attributes using List.reverseRecOn with
  | nil => rfl
  | append_singleton attributes a ih =>
      rw [normalized_concat, get?_take, ih, giving_concat, giving_concat]
      rcases AttributeName.ofText a.1 with ⟨spelled, behind⟩
      by_cases hname : spelled = name
      · subst hname
        -- A bare value is left out exactly where one behind `data-` was read before.
        cases behind with
        | true => simp
        | false =>
            cases hbehind : (giving attributes ⟨spelled, true⟩).getLast? <;>
              cases hbare : (giving attributes ⟨spelled, false⟩).getLast? <;> simp [hbehind, hbare]
      · simp [hname]

/-- Every name is given in each way with the same values in the same order. -/
def ReadAlike (a b : Attributes) : Prop :=
  ∀ n : AttributeName, a.giving n = b.giving n

theorem ReadAlike.value?_eq {a b : Attributes} (h : a.ReadAlike b) : a.value? = b.value? := by
  funext name
  rw [value?, value?, get?_normalized, get?_normalized, h, h]

/-- At most one attribute gives a name in one way, if no two spell it in the same way. -/
theorem Distinct.length_giving_le (h : attributes.Distinct) (n : AttributeName) :
    (attributes.giving n).length ≤ 1 := by
  have hnodup : ((attributes.giving n).map fun a => AttributeName.ofText a.1).Nodup :=
    h.sublist (List.filter_sublist.map _)
  have hall : (attributes.giving n).map (fun a => AttributeName.ofText a.1) =
      List.replicate (attributes.giving n).length n := by
    refine List.eq_replicate_iff.2 ⟨List.length_map _, List.forall_mem_map.2 ?_⟩
    intro a ha
    simpa using (List.mem_filter.1 ha).2
  rw [hall] at hnodup
  exact List.nodup_replicate.1 hnodup

/-- Where no name is given twice in the same way, attributes are read alike in every order. -/
theorem ReadAlike.of_perm {a b : Attributes} (h : a.Distinct) (hperm : a.Perm b) : a.ReadAlike b := by
  intro n
  have hgiving : (a.giving n).Perm (b.giving n) := hperm.filter _
  have hlength : (a.giving n).length ≤ 1 := h.length_giving_le n
  cases hvalues : a.giving n with
  | nil =>
      rw [hvalues, List.nil_perm] at hgiving
      exact hgiving.symm
  | cons x rest =>
      have hrest : rest = [] := by simpa [hvalues] using hlength
      rw [hvalues, hrest, List.singleton_perm] at hgiving
      rw [hrest, hgiving]

end Attributes

/-- Attributes that are read alike declare the same rule. -/
theorem Rule.ofAttributes_congr {a b : Attributes} (h : a.ReadAlike b) : ofAttributes a = ofAttributes b := by
  rw [ofAttributes_eq, ofAttributes_eq, h.value?_eq]

end FormValidation
