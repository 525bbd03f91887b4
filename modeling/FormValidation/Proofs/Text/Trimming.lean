import Mathlib.Data.List.TakeWhile
import FormValidation.Text.Blank

/-!
# Trimming texts

A run of characters ends where others follow it (`takeWhile_append_of_head?`).  A text is trimmed to nothing if
it is white space only (`trim_eq_empty_iff`), and otherwise to the part of it that has white space around it but
neither begins nor ends with any (`trim_eq_iff`).
-/

namespace FormValidation
namespace Text

/-! ## Runs of characters -/

/-- A run ends where a text goes on with something else. -/
theorem takeWhile_append_of_head? {p : Char → Bool} {run rest : List Char} (hrun : ∀ c ∈ run, p c = true)
    (hrest : ∀ c ∈ rest.head?, p c = false) :
    (run ++ rest).takeWhile p = run ∧ (run ++ rest).dropWhile p = rest := by
  have hnone : rest.takeWhile p = [] ∧ rest.dropWhile p = rest := by
    cases rest with
    | nil => exact ⟨rfl, rfl⟩
    | cons c rest =>
        have hc : p c = false := hrest c rfl
        simp [hc]
  constructor
  · rw [List.takeWhile_append_of_pos hrun, hnone.1, List.append_nil]
  · rw [List.dropWhile_append_of_pos hrun, hnone.2]

/-! ## White space only -/

/-- The text is white space only. -/
def IsBlank (s : String) : Prop :=
  ∀ c ∈ s.toList, isBlank c = true

instance (s : String) : Decidable (IsBlank s) :=
  decidable_of_iff (s.toList.all isBlank = true) List.all_eq_true

theorem trimChars_eq_nil_iff (cs : List Char) : trimChars cs = [] ↔ ∀ c ∈ cs, isBlank c = true := by
  constructor
  · intro h
    have hback : (cs.dropWhile isBlank).reverse.dropWhile isBlank = [] := List.reverse_eq_nil_iff.1 h
    have hblank : ∀ c ∈ (cs.dropWhile isBlank).reverse, isBlank c = true :=
      List.dropWhile_eq_nil_iff.1 hback
    -- A text that is white space behind its leading white space is white space throughout.
    intro c hc
    rw [← List.takeWhile_append_dropWhile (p := isBlank) (l := cs)] at hc
    rcases List.mem_append.1 hc with hlead | hrest
    · exact List.mem_takeWhile_imp hlead
    · exact hblank c (List.mem_reverse.2 hrest)
  · intro h
    have hnone : cs.dropWhile isBlank = [] := List.dropWhile_eq_nil_iff.2 h
    simp [trimChars, hnone]

theorem trim_eq_empty_iff (s : String) : trim s = "" ↔ ∀ c ∈ s.toList, isBlank c = true := by
  rw [← trimChars_eq_nil_iff, trim]
  exact String.ofList_eq_empty_iff

/-! ## White space around a text -/

/-- The characters neither begin nor end with white space. -/
structure IsTight (cs : List Char) : Prop where
  head : ∀ c ∈ cs.head?, isBlank c = false
  last : ∀ c ∈ cs.getLast?, isBlank c = false

/-- White space around a text that neither begins nor ends with any is what trimming takes away. -/
theorem trimChars_append {before core after : List Char} (hbefore : ∀ c ∈ before, isBlank c = true)
    (hcore : IsTight core) (hafter : ∀ c ∈ after, isBlank c = true) :
    trimChars (before ++ core ++ after) = core := by
  cases core with
  | nil =>
      refine (trimChars_eq_nil_iff _).2 ?_
      intro c hc
      rcases List.mem_append.1 hc with hc | hc
      · exact hbefore c (by simpa using hc)
      · exact hafter c hc
  | cons c cs =>
      -- Trimming stops at the first character that is no white space, from either side.
      have hfront : (before ++ (c :: cs) ++ after).dropWhile isBlank = (c :: cs) ++ after := by
        have hfirst : ∀ d ∈ (c :: cs ++ after).head?, isBlank d = false := fun d hd => hcore.head d hd
        rw [List.append_assoc]
        exact (takeWhile_append_of_head? hbefore hfirst).2
      have hback : ((c :: cs) ++ after).reverse.dropWhile isBlank = (c :: cs).reverse := by
        rw [List.reverse_append]
        refine (takeWhile_append_of_head? (fun d hd => hafter d (List.mem_reverse.1 hd)) ?_).2
        intro d hd
        exact hcore.last d (List.head?_reverse ▸ hd)
      rw [trimChars, hfront, hback, List.reverse_reverse]

/-- Behind its leading white space a text is what is left when it is trimmed, and white space. -/
theorem dropWhile_eq_trimChars_append (cs : List Char) :
    cs.dropWhile isBlank = trimChars cs ++ ((cs.dropWhile isBlank).reverse.takeWhile isBlank).reverse := by
  have hback := List.takeWhile_append_dropWhile (p := isBlank) (l := (cs.dropWhile isBlank).reverse)
  have hboth := congrArg List.reverse hback
  rw [List.reverse_append, List.reverse_reverse] at hboth
  exact hboth.symm

theorem exists_trimChars_append (cs : List Char) :
    ∃ before after, cs = before ++ trimChars cs ++ after ∧ (∀ c ∈ before, isBlank c = true) ∧
      ∀ c ∈ after, isBlank c = true := by
  refine ⟨cs.takeWhile isBlank, ((cs.dropWhile isBlank).reverse.takeWhile isBlank).reverse, ?_, ?_, ?_⟩
  · rw [List.append_assoc, ← dropWhile_eq_trimChars_append]
    exact List.takeWhile_append_dropWhile.symm
  · intro c hc
    exact List.mem_takeWhile_imp hc
  · intro c hc
    exact List.mem_takeWhile_imp (List.mem_reverse.1 hc)

theorem isTight_trimChars (cs : List Char) : IsTight (trimChars cs) := by
  have hdrop : ∀ ds : List Char, ∀ c ∈ (ds.dropWhile isBlank).head?, isBlank c = false := by
    intro ds c hc
    have hnot := List.head?_dropWhile_not isBlank ds
    rw [Option.mem_def.1 hc] at hnot
    exact hnot
  constructor
  · intro c hc
    refine hdrop cs c ?_
    rw [dropWhile_eq_trimChars_append, List.head?_append, Option.mem_def.1 hc]
    rfl
  · intro c hc
    rw [trimChars, List.getLast?_reverse] at hc
    exact hdrop _ c hc

/-- The text is the core with white space around it, and the core neither begins nor ends with any. -/
structure IsTrimmed (s core : String) : Prop where
  around : ∃ before after, s = before ++ core ++ after ∧ IsBlank before ∧ IsBlank after
  tight : IsTight core.toList

theorem trim_eq_iff {s core : String} : trim s = core ↔ IsTrimmed s core := by
  constructor
  · rintro rfl
    rcases exists_trimChars_append s.toList with ⟨before, after, hs, hbefore, hafter⟩
    refine ⟨⟨String.ofList before, String.ofList after, ?_, ?_, ?_⟩, ?_⟩
    · apply String.toList_inj.1
      simpa [trim] using hs
    · simpa [IsBlank] using hbefore
    · simpa [IsBlank] using hafter
    · rw [trim, String.toList_ofList]
      exact isTight_trimChars s.toList
  · rintro ⟨⟨before, after, rfl, hbefore, hafter⟩, htight⟩
    rw [trim, String.toList_append, String.toList_append, trimChars_append hbefore htight hafter]
    exact String.ofList_toList

end Text
end FormValidation
