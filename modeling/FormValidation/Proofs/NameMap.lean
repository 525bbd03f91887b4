import Mathlib.Data.List.Nodup
import FormValidation.NameMap

/-!
# Maps from names in other orders

A map is made again from its entries in whatever order (`NameMap.ofList_of_perm`), and what is made from entries of
distinct names holds each of them (`NameMap.get?_ofList_of_mem`).
-/

namespace FormValidation
namespace NameMap

variable {α : Type}

theorem perm_insertEntry {name : String} {l : List (String × α)} (h : name ∉ l.map Prod.fst) (value : α) :
    (insertEntry name value l).Perm ((name, value) :: l) := by
  induction l with
  | nil => exact .refl _
  | cons e l ih =>
      obtain ⟨n, v⟩ := e
      rw [List.map_cons, List.mem_cons, not_or] at h
      rw [insertEntry, if_neg h.1]
      by_cases hlt : name < n
      · rw [if_pos hlt]
      · rw [if_neg hlt]
        exact ((ih h.2).cons (n, v)).trans (.swap _ _ _)

/-- Putting in entries with new names adds them to those that are there. -/
theorem perm_foldl_insert {l : List (String × α)} {m : NameMap α} (h : (l.map Prod.fst ++ m.names).Nodup) :
    (l.foldl (fun m e => m.insert e.1 e.2) m).entries.Perm (l ++ m.entries) := by
  induction l generalizing m with
  | nil => exact .refl _
  | cons e l ih =>
      rw [List.map_cons, List.cons_append, List.nodup_cons, List.mem_append, not_or] at h
      obtain ⟨⟨hnew, hnot⟩, hrest⟩ := h
      -- The entry is new to the map, and its name does not come again.
      have hinsert : (m.insert e.1 e.2).entries.Perm (e :: m.entries) := perm_insertEntry hnot e.2
      have hnames : (l.map Prod.fst ++ (m.insert e.1 e.2).names).Nodup := by
        have hperm : (l.map Prod.fst ++ (m.insert e.1 e.2).names).Perm
            (e.1 :: (l.map Prod.fst ++ m.names)) :=
          ((hinsert.map Prod.fst).append_left _).trans List.perm_middle
        rw [hperm.nodup_iff, List.nodup_cons, List.mem_append, not_or]
        exact ⟨⟨hnew, hnot⟩, hrest⟩
      exact (ih hnames).trans ((hinsert.append_left l).trans List.perm_middle)

/-- Maps with the same entries are the same. -/
theorem eq_of_perm {m m' : NameMap α} (h : m.entries.Perm m'.entries) : m = m' := by
  have hentries : m.entries = m'.entries := by
    refine h.eq_of_pairwise ?_ m.sorted m'.sorted
    intro a b _ _ hab hba
    exact absurd hab (String.lt_asymm hba)
  cases m
  cases m'
  cases hentries
  rfl

/-- Entries of distinct names are the entries of the map that is made from them. -/
theorem perm_ofList {l : List (String × α)} (h : (l.map Prod.fst).Nodup) : (ofList l).entries.Perm l := by
  have hnames : (l.map Prod.fst ++ (empty : NameMap α).names).Nodup := by
    rwa [show (empty : NameMap α).names = [] from rfl, List.append_nil]
  have hentries : (ofList l).entries.Perm (l ++ []) := perm_foldl_insert hnames
  rwa [List.append_nil] at hentries

/-- The entries of a map, in any order, make the map again. -/
theorem ofList_of_perm {m : NameMap α} {l : List (String × α)} (h : l.Perm m.entries) : ofList l = m := by
  have hnames : (l.map Prod.fst).Nodup := by
    have hperm : (l.map Prod.fst).Perm m.names := h.map Prod.fst
    exact hperm.nodup_iff.2 m.nodup_names
  exact eq_of_perm ((perm_ofList hnames).trans h)

theorem find?_of_mem {l : List (String × α)} (h : (l.map Prod.fst).Nodup) {e : String × α} (he : e ∈ l) :
    find? e.1 l = some e.2 := by
  induction l with
  | nil => cases he
  | cons e' l ih =>
      rw [List.map_cons, List.nodup_cons] at h
      rcases List.mem_cons.1 he with rfl | he
      · exact if_pos rfl
      · have hne : e'.1 ≠ e.1 := fun heq => h.1 (heq ▸ List.mem_map_of_mem he)
        rw [find?, if_neg hne]
        exact ih h.2 he

/-- A map that is made from entries of distinct names holds each of them. -/
theorem get?_ofList_of_mem {l : List (String × α)} (h : (l.map Prod.fst).Nodup) {e : String × α}
    (he : e ∈ l) : (ofList l).get? e.1 = some e.2 :=
  find?_of_mem (ofList l).nodup_names ((perm_ofList h).mem_iff.2 he)

end NameMap
end FormValidation
