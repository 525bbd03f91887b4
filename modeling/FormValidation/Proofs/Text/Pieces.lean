import FormValidation.Proofs.Text.Trimming

/-!
# Cutting texts

The pieces of two texts with a comma between them are those of the one and then those of the other
(`pieces_append_comma`).

Cutting a text at a separator undoes joining: the stretches are the only texts without the separator that give the
text when they are joined again (`isCut_iff`).
-/

namespace FormValidation
namespace Text

/-! ## Pieces -/

theorem splitChars_of_notMem {sep : Char} {cs : List Char} (h : sep ∉ cs) : splitChars sep cs = [cs] := by
  induction cs with
  | nil => rfl
  | cons c cs ih =>
      rw [List.mem_cons, not_or] at h
      simp [splitChars, ih h.2, Ne.symm h.1]

theorem splitChars_append (sep : Char) (cs ds : List Char) :
    splitChars sep (cs ++ sep :: ds) = splitChars sep cs ++ splitChars sep ds := by
  induction cs with
  | nil => simp [splitChars]
  | cons c cs ih =>
      by_cases hc : c = sep
      · simp [splitChars, hc, ih]
      · cases hpieces : splitChars sep cs with
        | nil => exact absurd hpieces (splitChars_ne_nil sep cs)
        | cons piece pieces => simp [splitChars, hc, ih, hpieces]

theorem split_append (sep : Char) (s t : String) :
    split sep (s ++ String.singleton sep ++ t) = split sep s ++ split sep t := by
  have hchars : (s ++ String.singleton sep ++ t).toList = s.toList ++ sep :: t.toList := by simp
  rw [split, hchars, splitChars_append, List.map_append]
  rfl

theorem pieces_append_comma (s t : String) : pieces (s ++ "," ++ t) = pieces s ++ pieces t := by
  have hsplit : split ',' (s ++ "," ++ t) = split ',' s ++ split ',' t := split_append ',' s t
  simp only [pieces, hsplit, List.map_append, List.filter_append]

/-! ## Cutting and joining -/

/-- The pieces are the stretches of the text between its separators: they hold none, and joined they are the
text. -/
structure IsCut (sep : Char) (s : String) (pieces : List String) : Prop where
  ne_nil : pieces ≠ []
  apart : ∀ piece ∈ pieces, sep ∉ piece.toList
  joined : (String.singleton sep).intercalate pieces = s

theorem splitChars_eq_splitOn (sep : Char) (cs : List Char) : splitChars sep cs = cs.splitOn sep := by
  induction cs with
  | nil => rfl
  | cons c cs ih =>
      rw [List.splitOn_cons_eq_if_modifyHead, ← ih, splitChars]
      by_cases hc : c = sep
      · simp [hc]
      · cases hpieces : splitChars sep cs with
        | nil => exact absurd hpieces (splitChars_ne_nil sep cs)
        | cons piece pieces => simp [hc]

theorem notMem_of_mem_splitChars {sep : Char} {cs piece : List Char} (h : piece ∈ splitChars sep cs) :
    sep ∉ piece := by
  induction cs generalizing piece with
  | nil =>
      rw [List.mem_singleton.1 h]
      exact List.not_mem_nil
  | cons c cs ih =>
      rw [splitChars] at h
      by_cases hc : c = sep
      · rw [if_pos hc] at h
        rcases List.mem_cons.1 h with rfl | h
        · exact List.not_mem_nil
        · exact ih h
      · rw [if_neg hc] at h
        -- The character goes in front of the first of the pieces behind it.
        cases hpieces : splitChars sep cs with
        | nil => exact absurd hpieces (splitChars_ne_nil sep cs)
        | cons first rest =>
            simp only [hpieces] at h ih
            rcases List.mem_cons.1 h with rfl | h
            · have hfirst : sep ∉ first := ih List.mem_cons_self
              exact List.not_mem_cons_of_ne_of_not_mem (Ne.symm hc) hfirst
            · exact ih (List.mem_cons_of_mem _ h)

theorem isCut_split (sep : Char) (s : String) : IsCut sep s (split sep s) where
  ne_nil h := splitChars_ne_nil sep s.toList (List.map_eq_nil_iff.1 h)
  apart piece hpiece := by
    rcases List.mem_map.1 hpiece with ⟨cs, hcs, rfl⟩
    rw [String.toList_ofList]
    exact notMem_of_mem_splitChars hcs
  joined := by
    have hmap : (split sep s).map String.toList = s.toList.splitOn sep := by
      simp [split, splitChars_eq_splitOn]
    apply String.toList_inj.1
    rw [String.toList_intercalate, hmap, String.toList_singleton, List.intercalate_splitOn]

/-- A text is cut in one way only. -/
theorem isCut_iff {sep : Char} {s : String} {pieces : List String} :
    IsCut sep s pieces ↔ split sep s = pieces := by
  constructor
  · intro h
    have hapart : ∀ cs ∈ pieces.map String.toList, sep ∉ cs := List.forall_mem_map.2 h.apart
    have hne : pieces.map String.toList ≠ [] := fun hnil => h.ne_nil (List.map_eq_nil_iff.1 hnil)
    rw [split, splitChars_eq_splitOn, ← h.joined, String.toList_intercalate, String.toList_singleton,
      List.splitOn_intercalate sep hapart hne, List.map_map]
    simp
  · rintro rfl
    exact isCut_split sep s

theorem isCut_empty (sep : Char) : IsCut sep "" [""] where
  ne_nil := List.cons_ne_nil _ _
  apart := by simp
  joined := by simp

theorem IsCut.unique {sep : Char} {s : String} {pieces pieces' : List String} (h : IsCut sep s pieces)
    (h' : IsCut sep s pieces') : pieces = pieces' :=
  (isCut_iff.1 h).symm.trans (isCut_iff.1 h')

end Text
end FormValidation
