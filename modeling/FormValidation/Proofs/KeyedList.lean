import Mathlib.Data.List.Nodup

/-!
# Lists of entries by key

Objects and tables keep their entries in a list.  An entry is put in the place of the one of the same key, or at
the end (`KeyedList.put`), so that keys stay distinct (`KeyedList.nodup_put`), and an entry that is there already
makes no difference (`KeyedList.put_of_mem`).
-/

namespace FormValidation
namespace KeyedList

variable {α : Type} {key : String} {l : List (String × α)}

def put (key : String) (a : α) : List (String × α) → List (String × α)
  | [] => [(key, a)]
  | e :: rest => if e.1 = key then (key, a) :: rest else e :: put key a rest

theorem put_of_not_mem (h : key ∉ l.map Prod.fst) (a : α) : put key a l = l ++ [(key, a)] := by
  induction l with
  | nil => rfl
  | cons e rest ih =>
      rw [List.map_cons, List.mem_cons, not_or] at h
      rw [put, if_neg (Ne.symm h.1), ih h.2]
      rfl

theorem map_fst_put (key : String) (a : α) (l : List (String × α)) :
    (put key a l).map Prod.fst =
      if key ∈ l.map Prod.fst then l.map Prod.fst else l.map Prod.fst ++ [key] := by
  induction l with
  | nil => rfl
  | cons e rest ih =>
      rw [put]
      by_cases h : e.1 = key
      · simp [h]
      · rw [if_neg h, List.map_cons, ih]
        by_cases hrest : key ∈ rest.map Prod.fst
        · simp [hrest]
        · simp [hrest, Ne.symm h]

theorem nodup_put (h : (l.map Prod.fst).Nodup) (key : String) (a : α) : ((put key a l).map Prod.fst).Nodup := by
  rw [map_fst_put]
  split
  · exact h
  · rename_i hnew
    refine List.nodup_append.2 ⟨h, List.nodup_singleton key, ?_⟩
    rintro k hk _ hkey rfl
    exact hnew (List.mem_singleton.1 hkey ▸ hk)

theorem mem_put {e : String × α} {a : α} (h : e ∈ put key a l) : e = (key, a) ∨ e ∈ l := by
  induction l with
  | nil => exact .inl (List.mem_singleton.1 h)
  | cons e' rest ih =>
      rw [put] at h
      split at h
      · rcases List.mem_cons.1 h with rfl | hrest
        · exact .inl rfl
        · exact .inr (List.mem_cons_of_mem _ hrest)
      · rcases List.mem_cons.1 h with rfl | hrest
        · exact .inr List.mem_cons_self
        · exact (ih hrest).imp_right (List.mem_cons_of_mem _)

theorem put_of_mem (hnodup : (l.map Prod.fst).Nodup) {a : α} (h : (key, a) ∈ l) : put key a l = l := by
  induction l with
  | nil => cases h
  | cons e rest ih =>
      rw [List.map_cons, List.nodup_cons] at hnodup
      rw [put]
      rcases List.mem_cons.1 h with rfl | hrest
      · rw [if_pos rfl]
      · have hne : e.1 ≠ key := by
          rintro rfl
          exact hnodup.1 (List.mem_map.2 ⟨_, hrest, rfl⟩)
        rw [if_neg hne, ih hnodup.2 hrest]

end KeyedList
end FormValidation
