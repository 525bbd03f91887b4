import FormValidation.Text.Letter

/-!
# Lower case

Putting texts in lower case is a matter of tables of characters.  Of those tables only a little is needed to
tell whether a text comes out as some plain word (`Text.LowerCase`): then it does not matter which function it
is (`Text.LowerCase.lower_eq_iff`), and the one that knows the letters `A` to `Z` only is one of them
(`Text.LowerCase.letters`).
-/

namespace FormValidation
namespace Text

def IsAscii (s : String) : Prop :=
  ∀ c ∈ s.toList, c.toNat < 128

/-- A function that puts texts in lower case. -/
structure LowerCase where
  lower : String → String
  /-- Of ASCII characters only the letters `A` to `Z` change. -/
  lower_of_isAscii : ∀ s, IsAscii s → lower s = Text.lower s
  /-- Any other character leaves one that is none of ASCII either, but for the sign of the unit kelvin, which leaves
  a `k`. -/
  exists_of_not_isAscii : ∀ s, ¬IsAscii s → ∃ c ∈ (lower s).toList, 128 ≤ c.toNat ∨ c = 'k'

/-- A word of ASCII characters other than `k`. -/
def IsPlain (word : String) : Prop :=
  ∀ c ∈ word.toList, c.toNat < 128 ∧ c ≠ 'k'

instance (word : String) : Decidable (IsPlain word) :=
  decidable_of_iff ((word.toList.all fun c => decide (c.toNat < 128) && c != 'k') = true)
    (by simp [IsPlain])

namespace LowerCase

/-- Characters beyond ASCII are no letters `A` to `Z`. -/
theorem toLower_of_le {c : Char} (h : 128 ≤ c.toNat) : c.toLower = c := by
  have hupper : ¬(c.val ≥ 65 ∧ c.val ≤ 90) := by
    simp only [ge_iff_le, UInt32.le_iff_toNat_le]
    show ¬(65 ≤ c.toNat ∧ c.toNat ≤ 90)
    omega
  exact dif_neg hupper

/-- The function that puts the letters `A` to `Z` in lower case and leaves all other characters as they are. -/
def letters : LowerCase where
  lower := Text.lower
  lower_of_isAscii _ _ := rfl
  exists_of_not_isAscii s h := by
    have hother : ∃ c ∈ s.toList, 128 ≤ c.toNat := by
      simpa [IsAscii] using h
    rcases hother with ⟨c, hc, hle⟩
    refine ⟨c, ?_, .inl hle⟩
    rw [Text.lower, String.toList_ofList]
    exact List.mem_map.2 ⟨c, hc, toLower_of_le hle⟩

variable {s word : String}

theorem lower_ne_of_not_isAscii (l : LowerCase) (hword : IsPlain word) (h : ¬IsAscii s) :
    l.lower s ≠ word := by
  rintro rfl
  rcases l.exists_of_not_isAscii s h with ⟨c, hc, hle | hk⟩
  · exact absurd (hword c hc).1 (Nat.not_lt.2 hle)
  · exact (hword c hc).2 hk

/-- All functions make a plain word of the same texts. -/
theorem lower_eq_iff (l : LowerCase) (hword : IsPlain word) :
    l.lower s = word ↔ Text.lower s = word := by
  by_cases h : IsAscii s
  · rw [l.lower_of_isAscii s h]
  · exact iff_of_false (l.lower_ne_of_not_isAscii hword h) (letters.lower_ne_of_not_isAscii hword h)

theorem lower_mem_iff (l : LowerCase) {words : List String} (hwords : ∀ word ∈ words, IsPlain word) :
    l.lower s ∈ words ↔ Text.lower s ∈ words := by
  constructor
  · intro h
    rwa [(l.lower_eq_iff (hwords _ h)).1 rfl]
  · intro h
    rwa [(l.lower_eq_iff (hwords _ h)).2 rfl]

end LowerCase
end Text
end FormValidation
