import FormValidation.Json.Merge
import FormValidation.Proofs.Json.Distinct

/-!
# Values laid over others

Where the keys of two objects are distinct, a look-up in the one laid over the other finds what the upper one
has, laid in turn over what the lower one has, and otherwise what the lower one has (`lookup?_mergeMembers`).
So keys stay distinct (`distinct_merge`), and a value laid over itself stays as it is (`merge_self`).  Over the
empty object, and over what is no object, the upper value stays as it is (`merge_empty`, `merge_of_not_obj`), and
so it does if it is no object itself (`merge_of_upper_not_obj`).
-/

namespace FormValidation
namespace Json

variable {base upper : List (String × Json)}

/-- A member is put in with what was below it completing it. -/
theorem mergeMembers_cons (base : List (String × Json)) (m : String × Json)
    (rest : List (String × Json)) :
    mergeMembers base (m :: rest) =
      mergeMembers (put m.1 ((lookup? m.1 base).elim m.2 fun below => merge below m.2) base) rest := by
  obtain ⟨key, value⟩ := m
  rw [mergeMembers]
  cases lookup? key base <;> rfl

theorem nodup_mergeMembers (hbase : (base.map Prod.fst).Nodup) (upper : List (String × Json)) :
    ((mergeMembers base upper).map Prod.fst).Nodup := by
  induction upper generalizing base with
  | nil => rwa [mergeMembers]
  | cons m rest ih =>
      rw [mergeMembers_cons]
      exact ih (nodup_put hbase _ _)

theorem lookup?_mergeMembers (hbase : (base.map Prod.fst).Nodup) (hupper : (upper.map Prod.fst).Nodup)
    (key : String) :
    lookup? key (mergeMembers base upper) =
      match lookup? key upper with
      | some value => some ((lookup? key base).elim value fun below => merge below value)
      | none => lookup? key base := by
  induction upper generalizing base with
  | nil => rw [mergeMembers, lookup?_nil]
  | cons m rest ih =>
      rw [List.map_cons, List.nodup_cons] at hupper
      rw [mergeMembers_cons, ih (nodup_put hbase _ _) hupper.2, lookup?_put hbase, lookup?_cons]
      by_cases hkey : m.1 = key
      · -- The key does not come again, so what was put in stays.
        have hnone : lookup? key rest = none := lookup?_eq_none_iff.2 (hkey ▸ hupper.1)
        rw [hnone, if_pos hkey, if_pos hkey, hkey, Option.none_or]
      · rw [if_neg hkey, if_neg hkey, Option.or_none]

/-- A key is there if one of the two objects has it. -/
theorem mem_keys_mergeMembers (hbase : (base.map Prod.fst).Nodup) (hupper : (upper.map Prod.fst).Nodup)
    (key : String) :
    key ∈ (mergeMembers base upper).map Prod.fst ↔ key ∈ base.map Prod.fst ∨ key ∈ upper.map Prod.fst := by
  rw [← not_iff_not, not_or, ← lookup?_eq_none_iff, ← lookup?_eq_none_iff, ← lookup?_eq_none_iff,
    lookup?_mergeMembers hbase hupper]
  cases lookup? key upper with
  | none => simp
  | some value => simp

/-! ## Where one of the two is no object -/

theorem merge_of_not_obj {base : Json} (h : ∀ members, base ≠ .obj members) (upper : Json) :
    merge base upper = upper := by
  cases upper with
  | obj members =>
      cases base with
      | obj baseMembers => exact absurd rfl (h baseMembers)
      | null | bool _ | num _ | str _ | arr _ => rw [merge]; exact nofun
  | null | bool _ | num _ | str _ | arr _ => rw [merge]; exact nofun

theorem merge_of_upper_not_obj {upper : Json} (h : ∀ members, upper ≠ .obj members) (base : Json) :
    merge base upper = upper := by
  cases upper with
  | obj members => exact absurd rfl (h members)
  | null | bool _ | num _ | str _ | arr _ => rw [merge]; exact nofun

/-! ## Where nothing is below -/

/-- Members of new keys are laid beside those that are there. -/
theorem mergeMembers_of_nodup (h : ((base ++ upper).map Prod.fst).Nodup) :
    mergeMembers base upper = base ++ upper := by
  induction upper generalizing base with
  | nil => rw [mergeMembers, List.append_nil]
  | cons m rest ih =>
      obtain ⟨hnew, hrest⟩ := nodup_append_cons h
      rw [mergeMembers_cons, lookup?_eq_none_iff.2 hnew, Option.elim_none, put_of_not_mem hnew, ih hrest,
        ← List.append_cons]

theorem merge_empty {upper : Json} (h : Distinct upper) : merge (.obj []) upper = upper := by
  cases h with
  | obj hkeys _ =>
      rw [merge, mergeMembers_of_nodup (by simpa using hkeys), List.nil_append]
  | null | bool _ | num _ | str _ | arr _ => rw [merge]; exact nofun

/-! ## Where all is below already -/

theorem mergeMembers_of_mem (hbase : (base.map Prod.fst).Nodup)
    (h : ∀ m ∈ upper, m ∈ base ∧ merge m.2 m.2 = m.2) : mergeMembers base upper = base := by
  induction upper with
  | nil => rw [mergeMembers]
  | cons m rest ih =>
      rw [List.forall_mem_cons] at h
      have hlookup : lookup? m.1 base = some m.2 := (lookup?_eq_some_iff hbase).2 h.1.1
      rw [mergeMembers_cons, hlookup, Option.elim_some, h.1.2, put_of_mem hbase h.1.1, ih h.2]

theorem merge_self {j : Json} (h : Distinct j) : merge j j = j := by
  induction h with
  | obj hkeys _ ih => rw [merge, mergeMembers_of_mem hkeys fun m hm => ⟨hm, ih m hm⟩]
  | null | bool _ | num _ | str _ | arr _ => exact merge_of_upper_not_obj (by simp) _

/-! ## Distinct keys -/

theorem distinct_mergeMembers (hbase : Distinct (.obj base)) (hupper : Distinct (.obj upper))
    (h : ∀ m ∈ upper, ∀ below, Distinct below → Distinct (merge below m.2)) :
    Distinct (.obj (mergeMembers base upper)) := by
  refine .obj (nodup_mergeMembers hbase.nodup upper) ?_
  rintro ⟨key, j⟩ hm
  -- A member comes from the one object, from the other one or from both.
  have hfound := (lookup?_eq_some_iff (nodup_mergeMembers hbase.nodup upper)).2 hm
  rw [lookup?_mergeMembers hbase.nodup hupper.nodup] at hfound
  cases hvalue : lookup? key upper with
  | none =>
      rw [hvalue] at hfound
      exact hbase.of_lookup? hfound
  | some value =>
      have hmem : (key, value) ∈ upper := (lookup?_eq_some_iff hupper.nodup).1 hvalue
      rw [hvalue] at hfound
      cases hbelow : lookup? key base with
      | none =>
          rw [hbelow] at hfound
          cases hfound
          exact hupper.of_mem hmem
      | some below =>
          rw [hbelow] at hfound
          cases hfound
          exact h _ hmem below (hbase.of_lookup? hbelow)

theorem distinct_merge {base upper : Json} (hbase : Distinct base) (hupper : Distinct upper) :
    Distinct (merge base upper) := by
  induction hupper generalizing base with
  | obj hkeys hmembers ih =>
      cases hbase with
      | obj hbasekeys hbasemembers =>
          rw [merge]
          exact distinct_mergeMembers (.obj hbasekeys hbasemembers) (.obj hkeys hmembers)
            fun m hm _ hbelow => ih m hm hbelow
      | null | bool _ | num _ | str _ | arr _ =>
          rw [merge_of_not_obj (by simp)]
          exact .obj hkeys hmembers
  | arr hitems _ =>
      rw [merge_of_upper_not_obj (by simp)]
      exact .arr hitems
  | null | bool _ | num _ | str _ =>
      rw [merge_of_upper_not_obj (by simp)]
      constructor

end Json
end FormValidation
