import FormValidation.Proofs.Text.Trimming
import FormValidation.Text.Letter

/-!
# Spellings of words

A text spells a word if it is the word but for the case of letters and for white space around it
(`Text.Spells`).  Of a word without white space these are the texts that are the word once they are trimmed and
put in lower case (`spells_iff`), so a word is found by its spelling in a list of words with different letters
(`find?_of_spells`).
-/

namespace FormValidation
namespace Text

/-! ## Words -/

/-- The text has no white space. -/
def IsSolid (s : String) : Prop :=
  ∀ c ∈ s.toList, isBlank c = false

instance (s : String) : Decidable (IsSolid s) :=
  decidable_of_iff ((s.toList.all fun c => !isBlank c) = true) (by simp [IsSolid])

theorem IsSolid.tight {s : String} (h : IsSolid s) : IsTight s.toList where
  head c hc := h c (List.mem_of_mem_head? hc)
  last c hc := h c (List.mem_of_mem_getLast? hc)

/-! ## Letter case -/

/-- White space is no letter. -/
theorem toLower_of_isBlank {c : Char} (h : isBlank c = true) : c.toLower = c := by
  simp only [isBlank, Unicode.whiteSpace, Unicode.Ranges.contains, List.any_cons, List.any_nil,
    Bool.or_eq_true, Bool.and_eq_true, decide_eq_true_eq, Bool.or_false] at h
  have hupper : ¬(c.val ≥ 65 ∧ c.val ≤ 90) := by
    simp only [ge_iff_le, UInt32.le_iff_toNat_le]
    show ¬(65 ≤ c.toNat ∧ c.toNat ≤ 90)
    omega
  exact dif_neg hupper

theorem isSolid_of_lower {s : String} (h : IsSolid (lower s)) : IsSolid s := by
  intro c hc
  rw [Bool.eq_false_iff]
  intro hblank
  have hmem : c ∈ (lower s).toList := by
    rw [lower, String.toList_ofList]
    exact List.mem_map.2 ⟨c, hc, toLower_of_isBlank hblank⟩
  exact absurd hblank (by simp [h c hmem])

/-! ## Spellings -/

/-- The text is the word but for the case of the letters `A` to `Z` and for white space around it. -/
def Spells (text word : String) : Prop :=
  ∃ before core after, text = before ++ core ++ after ∧ IsBlank before ∧ IsBlank after ∧
    lower core = word

/-- Trimmed and in lower case, the spellings of a word are that word. -/
theorem spells_iff {text word : String} (hword : IsSolid word) :
    Spells text word ↔ lower (trim text) = word := by
  constructor
  · rintro ⟨before, core, after, rfl, hbefore, hafter, hcore⟩
    -- White space has no letter case, so there is none in the middle either.
    have hsolid : IsSolid core := isSolid_of_lower (hcore ▸ hword)
    have htrim : trim (before ++ core ++ after) = core := by
      rw [trim, String.toList_append, String.toList_append, trimChars_append hbefore hsolid.tight hafter]
      exact String.ofList_toList
    rw [htrim, hcore]
  · intro h
    rcases exists_trimChars_append text.toList with ⟨before, after, htext, hbefore, hafter⟩
    refine ⟨String.ofList before, trim text, String.ofList after, ?_, ?_, ?_, h⟩
    · rw [trim, ← String.ofList_append, ← String.ofList_append, ← htext]
      exact String.ofList_toList.symm
    · simpa [IsBlank] using hbefore
    · simpa [IsBlank] using hafter

theorem spells_self {word : String} (hlower : lower word = word) : Spells word word := by
  refine ⟨"", word, "", ?_, ?_, ?_, hlower⟩
  · simp
  · simp [IsBlank]
  · simp [IsBlank]

/-- Among things whose names have different letters, one is found by any spelling of its name. -/
theorem find?_of_spells {α : Type} {name : α → String} {all : List α} {a : α} (ha : a ∈ all)
    (hsolid : IsSolid (name a)) (hlower : lower (name a) = name a)
    (hinj : ∀ b ∈ all, lower (name b) = name a → b = a) {text : String} (h : Spells text (name a)) :
    all.find? (fun b => sameLetters (name b) (trim text)) = some a := by
  have htext : lower (trim text) = name a := (spells_iff hsolid).1 h
  have hsome : (all.find? fun b => sameLetters (name b) (trim text)).isSome := by
    rw [List.find?_isSome]
    exact ⟨a, ha, by simp [sameLetters, htext, hlower]⟩
  rcases Option.isSome_iff_exists.1 hsome with ⟨b, hb⟩
  have hletters : lower (name b) = name a := by
    simpa [sameLetters, htext] using List.find?_some hb
  have hba : b = a := hinj b (List.mem_of_find?_eq_some hb) hletters
  rw [hb, hba]

end Text
end FormValidation
