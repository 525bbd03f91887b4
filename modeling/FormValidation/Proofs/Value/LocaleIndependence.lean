import FormValidation.Proofs.Pattern.Language
import FormValidation.Value.Comparison

/-!
# Values that every locale reads alike

Integers are read without a locale.  A date goes to the locale only if the international format does not match:
a text that starts with a match is read, or refused, alike under every locale (`Locale.readDate_congr`), and the
empty text is a date under none (`Locale.date?_empty`).  So a comparison of such texts comes out alike
(`Locale.compare_congr`).
-/

namespace FormValidation

/-! ## International dates -/

/-- An expression that asks for the beginning of a text matches there or nowhere. -/
theorem Pattern.Regex.isMatch_textStart_iff (s : Regex) (rs : List Regex) (cs : List Char) :
    (concat (.assertion .textStart :: s :: rs)).isMatch cs = true ↔
      ∃ q, (concat (.assertion .textStart :: s :: rs)).Spans (.start cs) q := by
  have hspans : ∀ q, (concat (.assertion .textStart :: s :: rs)).Spans (.start cs) q ↔
      (concat (s :: rs)).Spans (.start cs) q := by
    intro q
    rw [spans_concat, spans_concat]
    constructor
    · rintro ⟨m, ⟨-, rfl⟩, hm⟩
      exact hm
    · intro h
      exact ⟨_, ⟨rfl, rfl⟩, h⟩
  calc
    (concat (.assertion .textStart :: s :: rs)).isMatch cs = true
        ↔ ((concat (s :: rs)).hits ⟨.start cs, []⟩).head?.isSome = true := by
          rw [isMatch, find?_textStart]
    _ ↔ ∃ q, (concat (s :: rs)).Spans (.start cs) q := isSome_head?_hits_iff _ _
    _ ↔ ∃ q, (concat (.assertion .textStart :: s :: rs)).Spans (.start cs) q := by
          simp only [hspans]

namespace DateFormat

/-- The text starts with a match of the international date pattern. -/
def StartsInternational (text : String) : Prop :=
  ∃ q, international.pattern.regex.Spans (.start text.toList) q

variable {text : String}

theorem startsInternational_iff : StartsInternational text ↔ international.pattern.isMatch text = true :=
  (Pattern.Regex.isMatch_textStart_iff _ _ _).symm

theorem exists_match?_of_startsInternational (h : StartsInternational text) :
    ∃ found, international.match? text = some found := by
  rcases Option.isSome_iff_exists.1 (startsInternational_iff.1 h) with ⟨hit, hhit⟩
  exact ⟨(hit.captures, international.groups), by rw [match?, Pattern.captures?, hhit]; rfl⟩

/-- In the empty text a format finds no number. -/
theorem required_of_match?_empty {f : DateFormat} {captures : Pattern.Captures} {groups : DateGroups}
    (h : f.match? "" = some (captures, groups)) (group : Nat) :
    DateParts.required captures group = .error .invalidNumber := by
  rcases Option.map_eq_some_iff.1 h with ⟨_, hcaptures, heq⟩
  cases heq
  rcases Option.map_eq_some_iff.1 hcaptures with ⟨hit, hhit, rfl⟩
  rw [DateParts.required, DateParts.optional, Option.bind_some]
  cases htext : hit.captures.text? group with
  | none => rfl
  | some text =>
      obtain rfl : text = [] := f.pattern.regex.text?_of_find?_nil hhit htext
      rfl

end DateFormat

namespace Locale

/-- A match of the international format decides, even if there is no such date. -/
theorem readDate_congr {text : String} (h : DateFormat.StartsInternational text) (l l' : Locale) :
    l.readDate text = l'.readDate text := by
  rcases DateFormat.exists_match?_of_startsInternational h with ⟨found, hfound⟩
  rw [readDate, readDate, hfound, Option.some_or, Option.some_or]

theorem date?_empty (l : Locale) : l.date? "" = none := by
  rw [date?, readDate]
  cases hmatch : (DateFormat.international.match? "").or (l.dateFormat.match? "") with
  | none => rfl
  | some found =>
      obtain ⟨captures, groups⟩ := found
      -- Whichever format matches, there is no year.
      have hyear : DateParts.required captures groups.year = .error .invalidNumber := by
        rcases Option.or_eq_some_iff.1 hmatch with h | ⟨-, h⟩
        · exact DateFormat.required_of_match?_empty h _
        · exact DateFormat.required_of_match?_empty h _
      simp only [DateParts.ofCaptures, hyear]
      rfl

end Locale

/-! ## Values -/

/-- No locale is needed to read the text as a value of the kind: integers are the same everywhere, and so are
international dates and what is no date for being empty. -/
inductive Value.LocaleFree : ValueKind → String → Prop where
  | int (text : String) : LocaleFree .int text
  | date {text : String} (h : DateFormat.StartsInternational text) : LocaleFree .date text
  | empty : LocaleFree .date ""

theorem Value.read?_congr {kind : ValueKind} {text : String} (h : LocaleFree kind text) (l l' : Locale) :
    read? l kind text = read? l' kind text := by
  cases h with
  | int text => rfl
  | date h => rw [read?, read?, Locale.date?, Locale.date?, Locale.readDate_congr h l l']
  | empty => rw [read?, read?, Locale.date?_empty, Locale.date?_empty]

namespace Locale

variable {kind : ValueKind} {value operand : String} {op : Operator} {max : Option String}

theorem maximum?_congr (hmax : op = .range → ∀ text ∈ max, Value.LocaleFree kind text) (l l' : Locale) :
    l.maximum? kind op max = l'.maximum? kind op max := by
  cases op with
  | range =>
      cases max with
      | none => rfl
      | some text => rw [maximum?, maximum?, Value.read?_congr (hmax rfl text rfl) l l']
  | _ => cases max <;> rfl

/-- The bound is read for a range only, and then as the operands are. -/
theorem compare_congr (hvalue : Value.LocaleFree kind value) (hoperand : Value.LocaleFree kind operand)
    (hmax : op = .range → ∀ text ∈ max, Value.LocaleFree kind text) (l l' : Locale) :
    l.compare kind value op operand max = l'.compare kind value op operand max := by
  have houtcome : l.outcome kind value op operand max = l'.outcome kind value op operand max := by
    rw [outcome, outcome, Value.read?_congr hvalue l l', Value.read?_congr hoperand l l',
      maximum?_congr hmax l l']
  rw [compare, compare, houtcome]

end Locale
end FormValidation
