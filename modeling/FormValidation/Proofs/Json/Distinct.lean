import FormValidation.Json.Fields
import FormValidation.Proofs.Json.Layout
import FormValidation.Proofs.KeyedList

/-!
# Objects whose keys are distinct

Where the keys of an object are distinct, a look-up is membership (`lookup?_eq_some_iff`) and a field is what is
looked up for it (`required_eq`, `defaulted_eq`).  What is left of a value once only the last member of each key
counts has such objects only (`distinct_settled`), and a value that has such objects only stays as it is
(`settled_of_distinct`).
-/

namespace FormValidation
namespace Json

variable {key : String} {j : Json} {members : List (String × Json)}

/-! ## Looking up -/

@[simp] theorem lookup?_nil (key : String) : lookup? key [] = none :=
  rfl

/-- Of members of one key the last one is found. -/
theorem lookup?_cons (key : String) (m : String × Json) (rest : List (String × Json)) :
    lookup? key (m :: rest) = (lookup? key rest).or (if m.1 = key then some m.2 else none) := by
  have hlast : List.lookup key [m] = if m.1 = key then some m.2 else none := by
    by_cases h : m.1 = key
    · rw [if_pos h, ← h, List.lookup_cons_self]
    · have hne : (key == m.1) = false := beq_false_of_ne (Ne.symm h)
      rw [if_neg h, List.lookup_cons, hne, List.lookup_nil]
  rw [lookup?, List.reverse_cons, List.lookup_append, hlast]
  rfl

theorem lookup?_eq_none_iff : lookup? key members = none ↔ key ∉ members.map Prod.fst := by
  induction members with
  | nil => simp
  | cons m rest ih =>
      rw [lookup?_cons, Option.or_eq_none_iff, ih, List.map_cons, List.mem_cons, not_or]
      by_cases h : m.1 = key
      · simp [h]
      · simp [h, Ne.symm h]

theorem lookup?_eq_some_iff (h : (members.map Prod.fst).Nodup) :
    lookup? key members = some j ↔ (key, j) ∈ members := by
  induction members with
  | nil => simp
  | cons m rest ih =>
      rw [List.map_cons, List.nodup_cons] at h
      obtain ⟨hnew, hrest⟩ := h
      rw [lookup?_cons, List.mem_cons]
      by_cases hkey : m.1 = key
      · -- The key does not come again.
        have hnone : lookup? key rest = none := lookup?_eq_none_iff.2 (hkey ▸ hnew)
        have hnot : (key, j) ∉ rest := fun hmem => hnew (hkey ▸ List.mem_map_of_mem hmem)
        rw [hnone, if_pos hkey, Option.none_or, Option.some_inj]
        simp [Prod.ext_iff, hnot, hkey, eq_comm]
      · rw [if_neg hkey, Option.or_none, ih hrest]
        simp [Prod.ext_iff, Ne.symm hkey]

/-! ## Fields -/

theorem given_eq_toList (h : (members.map Prod.fst).Nodup) (key : String) :
    given key members = (lookup? key members).toList := by
  induction members with
  | nil => rfl
  | cons m rest ih =>
      rw [List.map_cons, List.nodup_cons] at h
      have hgiven := ih h.2
      rw [given] at hgiven ⊢
      rw [lookup?_cons, List.filter_cons]
      by_cases hkey : m.1 = key
      · have hnone : lookup? key rest = none := lookup?_eq_none_iff.2 (hkey ▸ h.1)
        rw [if_pos (beq_iff_eq.2 hkey), List.map_cons, hgiven, hnone, if_pos hkey]
        rfl
      · have hne : (m.1 == key) = false := beq_false_of_ne hkey
        rw [hne, if_neg hkey, Option.or_none]
        exact hgiven

theorem required_eq {α : Type} (h : (members.map Prod.fst).Nodup) (key : String)
    (decode : Json → Option α) : required key decode members = (lookup? key members).bind decode := by
  rw [required, given_eq_toList h]
  cases lookup? key members <;> rfl

theorem defaulted_eq {α : Type} (h : (members.map Prod.fst).Nodup) (key : String) (default : α)
    (decode : Json → Option α) :
    defaulted key default decode members = (lookup? key members).elim (some default) decode := by
  rw [defaulted, given_eq_toList h]
  cases lookup? key members <;> rfl

theorem decode_of_required {α : Type} {decode : Json → Option α} {a : α} (hkeys : (members.map Prod.fst).Nodup)
    (hj : lookup? key members = some j) (h : required key decode members = some a) : decode j = some a := by
  rwa [required_eq hkeys, hj, Option.bind_some] at h

theorem decode_of_defaulted {α : Type} {decode : Json → Option α} {default a : α}
    (hkeys : (members.map Prod.fst).Nodup) (hj : lookup? key members = some j)
    (h : defaulted key default decode members = some a) : decode j = some a := by
  rwa [defaulted_eq hkeys, hj, Option.elim_some] at h

/-! ## Putting members in -/

/-- A member that comes next is new, and then belongs to those that were before the rest. -/
theorem nodup_append_cons {before rest : List (String × Json)} {m : String × Json}
    (h : ((before ++ m :: rest).map Prod.fst).Nodup) :
    m.1 ∉ before.map Prod.fst ∧ ((before ++ [m] ++ rest).map Prod.fst).Nodup := by
  constructor
  · rw [List.map_append, List.map_cons] at h
    exact fun hmem => List.disjoint_of_nodup_append h hmem List.mem_cons_self
  · rwa [List.append_cons] at h

theorem put_eq (key : String) (value : Json) (members : List (String × Json)) :
    put key value members = KeyedList.put key value members := by
  induction members with
  | nil => rfl
  | cons m rest ih => rw [put, ih, KeyedList.put]

theorem put_of_not_mem (h : key ∉ members.map Prod.fst) (value : Json) :
    put key value members = members ++ [(key, value)] :=
  (put_eq key value members).trans (KeyedList.put_of_not_mem h value)

theorem put_of_mem (hnodup : (members.map Prod.fst).Nodup) (h : (key, j) ∈ members) :
    put key j members = members :=
  (put_eq key j members).trans (KeyedList.put_of_mem hnodup h)

theorem nodup_put (h : (members.map Prod.fst).Nodup) (key : String) (value : Json) :
    ((put key value members).map Prod.fst).Nodup :=
  put_eq key value members ▸ KeyedList.nodup_put h key value

theorem mem_put {m : String × Json} {value : Json} (h : m ∈ put key value members) :
    m = (key, value) ∨ m ∈ members :=
  KeyedList.mem_put (put_eq key value members ▸ h)

theorem lookup?_put (h : (members.map Prod.fst).Nodup) (key key' : String) (value : Json) :
    lookup? key' (put key value members) = if key = key' then some value else lookup? key' members := by
  induction members with
  | nil => rw [put, lookup?_cons, lookup?_nil, Option.none_or]
  | cons m rest ih =>
      rw [List.map_cons, List.nodup_cons] at h
      rw [put]
      by_cases hm : m.1 = key
      · -- The member is put in place of the first one, and the key does not come again.
        have hnone : lookup? key rest = none := lookup?_eq_none_iff.2 (hm ▸ h.1)
        rw [if_pos hm, lookup?_cons, lookup?_cons, hm]
        by_cases hkey : key = key'
        · rw [if_pos hkey, if_pos hkey, ← hkey, hnone, Option.none_or]
        · rw [if_neg hkey, if_neg hkey, if_neg hkey]
      · rw [if_neg hm, lookup?_cons, lookup?_cons, ih h.2]
        by_cases hkey : key = key'
        · rw [if_pos hkey, if_pos hkey, Option.some_or]
        · rw [if_neg hkey, if_neg hkey]

/-! ## Settled values -/

/-- The keys of all objects in the value are distinct. -/
inductive Distinct : Json → Prop where
  | null : Distinct .null
  | bool (b : Bool) : Distinct (.bool b)
  | num (n : Number) : Distinct (.num n)
  | str (s : String) : Distinct (.str s)
  | arr {items : List Json} (hitems : ∀ j ∈ items, Distinct j) : Distinct (.arr items)
  | obj {members : List (String × Json)} (hkeys : (members.map Prod.fst).Nodup)
      (hmembers : ∀ m ∈ members, Distinct m.2) : Distinct (.obj members)

theorem Distinct.nodup (h : Distinct (.obj members)) : (members.map Prod.fst).Nodup := by
  cases h with
  | obj hkeys _ => exact hkeys

theorem Distinct.of_mem (h : Distinct (.obj members)) {m : String × Json} (hm : m ∈ members) :
    Distinct m.2 := by
  cases h with
  | obj _ hmembers => exact hmembers m hm

theorem Distinct.of_lookup? (h : Distinct (.obj members)) (hj : lookup? key members = some j) : Distinct j :=
  h.of_mem ((lookup?_eq_some_iff h.nodup).1 hj)

theorem settledItems_eq_map (items : List Json) : settledItems items = items.map settled := by
  induction items with
  | nil => rfl
  | cons j rest ih => rw [settledItems, ih, List.map_cons]

/-- What is put in one after the other, each with a settled value, keeps the keys distinct. -/
theorem distinct_settledMembers {done members : List (String × Json)} (hdone : Distinct (.obj done))
    (h : ∀ m ∈ members, Distinct m.2.settled) : Distinct (.obj (settledMembers done members)) := by
  induction members generalizing done with
  | nil => exact hdone
  | cons m rest ih =>
      obtain ⟨key, j⟩ := m
      refine ih (.obj (nodup_put hdone.nodup key j.settled) ?_) fun m hm => h m (List.mem_cons_of_mem _ hm)
      intro m hm
      rcases mem_put hm with rfl | hm
      · exact h (key, j) List.mem_cons_self
      · exact hdone.of_mem hm

theorem distinct_settled (j : Json) : Distinct j.settled := by
  induction j using nestedInduction with
  | null => exact .null
  | bool b => exact .bool b
  | num n => exact .num n
  | str s => exact .str s
  | arr items ih =>
      rw [settled, settledItems_eq_map]
      exact .arr (List.forall_mem_map.2 ih)
  | obj members ih => exact distinct_settledMembers (.obj List.nodup_nil (by simp)) ih

/-- Members of new keys are put behind those that are there. -/
theorem settledMembers_of_nodup {done members : List (String × Json)}
    (hkeys : ((done ++ members).map Prod.fst).Nodup) (h : ∀ m ∈ members, m.2.settled = m.2) :
    settledMembers done members = done ++ members := by
  induction members generalizing done with
  | nil => rw [settledMembers, List.append_nil]
  | cons m rest ih =>
      obtain ⟨key, j⟩ := m
      have hsettled : j.settled = j := h (key, j) List.mem_cons_self
      obtain ⟨hnew, hrest⟩ := nodup_append_cons hkeys
      rw [settledMembers, hsettled, put_of_not_mem hnew,
        ih hrest fun m hm => h m (List.mem_cons_of_mem _ hm), ← List.append_cons]

theorem settled_of_distinct {j : Json} (h : Distinct j) : j.settled = j := by
  induction h with
  | null => rfl
  | bool b => rfl
  | num n => rfl
  | str s => rfl
  | arr _ ih =>
      rw [settled, settledItems_eq_map]
      exact congrArg Json.arr ((List.map_congr_left ih).trans (List.map_id _))
  | obj hkeys _ ih => exact congrArg Json.obj (settledMembers_of_nodup hkeys ih)

end Json
end FormValidation
