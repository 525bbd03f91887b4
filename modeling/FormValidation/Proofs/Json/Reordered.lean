import FormValidation.Proofs.Json.Merge

/-!
# The order of members

Objects are read by their keys, so the order of their members carries no meaning.  Values that differ in it only
(`Json.Reordered`) are found as such under each key (`Reordered.obj_iff`), and what comes of laying them over
values of that kind differs in it only, too (`reordered_merge`).
-/

namespace FormValidation
namespace Json

/-- The values differ at most in the order of the members of their objects. -/
inductive Reordered : Json → Json → Prop where
  | null : Reordered .null .null
  | bool (b : Bool) : Reordered (.bool b) (.bool b)
  | num (n : Number) : Reordered (.num n) (.num n)
  | str (s : String) : Reordered (.str s) (.str s)
  | arr {items items' : List Json} (hlength : items.length = items'.length)
      (hitems : ∀ (i : Nat) (j j' : Json), items[i]? = some j → items'[i]? = some j' → Reordered j j') :
      Reordered (.arr items) (.arr items')
  | obj {members members' : List (String × Json)}
      (hkeys : (members.map Prod.fst).Perm (members'.map Prod.fst))
      (hmembers : ∀ key j j', (key, j) ∈ members → (key, j') ∈ members' → Reordered j j') :
      Reordered (.obj members) (.obj members')

variable {members members' : List (String × Json)}

namespace Reordered

theorem of_perm (hkeys : (members.map Prod.fst).Nodup) (hperm : members.Perm members')
    (h : ∀ m ∈ members, Reordered m.2 m.2) : Reordered (.obj members) (.obj members') := by
  refine .obj (hperm.map Prod.fst) ?_
  intro key j j' hj hj'
  have hsame : (key, j) = (key, j') :=
    List.inj_on_of_nodup_map hkeys hj (hperm.mem_iff.2 hj') rfl
  cases hsame
  exact h (key, j) hj

protected theorem refl {j : Json} (h : Distinct j) : Reordered j j := by
  induction h with
  | null => exact .null
  | bool b => exact .bool b
  | num n => exact .num n
  | str s => exact .str s
  | arr _ ih =>
      refine .arr rfl ?_
      intro i j j' hj hj'
      cases hj.symm.trans hj'
      exact ih j (List.mem_of_getElem? hj)
  | obj hkeys _ ih => exact of_perm hkeys (List.Perm.refl _) ih

theorem nodup (h : Reordered (.obj members) (.obj members')) (hnodup : (members.map Prod.fst).Nodup) :
    (members'.map Prod.fst).Nodup := by
  cases h with
  | obj hkeys _ => exact hkeys.nodup_iff.1 hnodup

/-- A look-up finds reordered values in both objects, or nothing in both. -/
theorem obj_iff (hnodup : (members.map Prod.fst).Nodup) (hnodup' : (members'.map Prod.fst).Nodup) :
    Reordered (.obj members) (.obj members') ↔
      ∀ key, (lookup? key members = none ∧ lookup? key members' = none) ∨
        ∃ j j', lookup? key members = some j ∧ lookup? key members' = some j' ∧ Reordered j j' := by
  constructor
  · intro h key
    cases h with
    | obj hkeys hmembers =>
        cases hj : lookup? key members with
        | none =>
            rw [lookup?_eq_none_iff, hkeys.mem_iff] at hj
            exact .inl ⟨rfl, lookup?_eq_none_iff.2 hj⟩
        | some j =>
            have hmem := (lookup?_eq_some_iff hnodup).1 hj
            have hkey : key ∈ members'.map Prod.fst := hkeys.mem_iff.1 (List.mem_map.2 ⟨_, hmem, rfl⟩)
            rcases List.mem_map.1 hkey with ⟨⟨_, j'⟩, hmem', rfl⟩
            exact .inr ⟨j, j', rfl, (lookup?_eq_some_iff hnodup').2 hmem', hmembers _ j j' hmem hmem'⟩
  · intro h
    refine .obj ((List.perm_ext_iff_of_nodup hnodup hnodup').2 ?_) ?_
    · intro key
      rw [← not_iff_not, ← lookup?_eq_none_iff, ← lookup?_eq_none_iff]
      rcases h key with ⟨hnone, hnone'⟩ | ⟨j, j', hj, hj', -⟩
      · rw [hnone, hnone']
      · simp [hj, hj']
    · intro key j j' hj hj'
      rw [← lookup?_eq_some_iff hnodup] at hj
      rw [← lookup?_eq_some_iff hnodup'] at hj'
      rcases h key with ⟨hnone, -⟩ | ⟨_, _, hfound, hfound', h⟩
      · cases hnone.symm.trans hj
      · cases hfound.symm.trans hj
        cases hfound'.symm.trans hj'
        exact h

end Reordered

/-! ## Values laid over others -/

theorem reordered_mergeMembers {lower lower' : List (String × Json)} (hlower : (lower.map Prod.fst).Nodup)
    (hmembers : (members.map Prod.fst).Nodup) (h : Reordered (.obj lower) (.obj lower'))
    (h' : Reordered (.obj members) (.obj members'))
    (hmerge : ∀ key below below' value value', (key, below) ∈ lower → (key, value) ∈ members →
      Reordered below below' → Reordered value value' → Reordered (merge below value) (merge below' value')) :
    Reordered (.obj (mergeMembers lower members)) (.obj (mergeMembers lower' members')) := by
  have hlower' := h.nodup hlower
  have hmembers' := h'.nodup hmembers
  rw [Reordered.obj_iff (nodup_mergeMembers hlower _) (nodup_mergeMembers hlower' _)]
  intro key
  rw [lookup?_mergeMembers hlower hmembers, lookup?_mergeMembers hlower' hmembers']
  have hbelow := (Reordered.obj_iff hlower hlower').1 h key
  rcases (Reordered.obj_iff hmembers hmembers').1 h' key with
    ⟨hnone, hnone'⟩ | ⟨value, value', hvalue, hvalue', hvalues⟩
  · rw [hnone, hnone']
    exact hbelow
  · rw [hvalue, hvalue']
    rcases hbelow with ⟨hnone, hnone'⟩ | ⟨below, below', hfound, hfound', hbelows⟩
    · rw [hnone, hnone']
      exact .inr ⟨value, value', rfl, rfl, hvalues⟩
    · have hmem : (key, below) ∈ lower := (lookup?_eq_some_iff hlower).1 hfound
      have hmem' : (key, value) ∈ members := (lookup?_eq_some_iff hmembers).1 hvalue
      rw [hfound, hfound']
      exact .inr ⟨_, _, rfl, rfl, hmerge key below below' value value' hmem hmem' hbelows hvalues⟩

theorem reordered_merge {base base' upper upper' : Json} (hbase : Distinct base) (hupper : Distinct upper)
    (h : Reordered base base') (h' : Reordered upper upper') :
    Reordered (merge base upper) (merge base' upper') := by
  induction hupper generalizing base base' upper' with
  | obj hkeys _ ih =>
      cases h with
      | obj hlowerkeys hlower =>
          cases h' with
          | obj hkeys' hmembers =>
              rw [merge, merge]
              refine reordered_mergeMembers hbase.nodup hkeys (.obj hlowerkeys hlower) (.obj hkeys' hmembers) ?_
              intro key below below' value value' hbelow hvalue h h'
              exact ih (key, value) hvalue (hbase.of_mem hbelow) h h'
      | null | bool _ | num _ | str _ | arr _ =>
          rw [merge_of_not_obj (by simp), merge_of_not_obj (by simp)]
          exact h'
  | null | bool _ | num _ | str _ | arr _ =>
      have hnot : ∀ members, upper' ≠ .obj members := by
        rintro members rfl
        cases h'
      rw [merge_of_upper_not_obj (by simp), merge_of_upper_not_obj hnot]
      exact h'

end Json
end FormValidation
