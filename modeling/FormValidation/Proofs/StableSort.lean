import Mathlib.Data.List.Sort

/-!
# Stable sorting

Sorting keeps the order of entries of which neither goes before the other (`pairwise_mergeSort_stable`).
Where entries are sorted by keys, those of one key stay as they stand (`filter_mergeSort`), and nothing else is
in order and does the same (`eq_of_filter_eq`).  Sorting by keys that no two entries share does not depend on
the order in which the entries come (`mergeSort_eq_of_perm`).
-/

namespace FormValidation
namespace StableSort

variable {α : Type} {le : α → α → Bool}

/-- The sorted list is in order, and entries that are alike stand as they stood before. -/
theorem pairwise_mergeSort_stable {r : α → α → Prop}
    (trans : ∀ a b c, le a b → le b c → le a c) (total : ∀ a b, le a b || le b a)
    {l : List α} (h : l.Pairwise r) :
    (l.mergeSort le).Pairwise fun a b => le a b ∧ (le b a → r a b) := by
  induction l with
  | nil => simp
  | cons a l ih =>
      rcases List.pairwise_cons.1 h with ⟨ha, hl⟩
      -- The head is put into the sorted tail, behind all that go strictly before it.
      rcases List.mergeSort_cons trans total a l with ⟨before, behind, hcons, htail, hbefore⟩
      have hsorted : (before ++ a :: behind).Pairwise fun a b => le a b = true := by
        rw [← hcons]
        exact List.pairwise_mergeSort trans total (a :: l)
      have hrest := ih hl
      rw [htail] at hrest
      rw [hcons]
      rcases List.pairwise_append.1 hrest with ⟨h₁, h₂, h₁₂⟩
      rcases List.pairwise_append.1 hsorted with ⟨-, hright, hcross⟩
      refine List.pairwise_append.2 ⟨h₁, List.pairwise_cons.2 ⟨?_, h₂⟩, ?_⟩
      · intro b hb
        have hmem : b ∈ l.mergeSort le := htail ▸ List.mem_append_right before hb
        exact ⟨List.rel_of_pairwise_cons hright hb, fun _ => ha b (List.mem_mergeSort.1 hmem)⟩
      · intro b hb c hc
        rcases List.mem_cons.1 hc with rfl | hc
        · refine ⟨hcross b hb c List.mem_cons_self, ?_⟩
          intro hle
          have hstrict := hbefore b hb
          simp [hle] at hstrict
        · exact h₁₂ b hb c hc

/-! ## Sorting by keys -/

variable {κ : Type} [LinearOrder κ] {key : α → κ}

theorem keys_le_trans (key : α → κ) :
    ∀ a b c : α, decide (key a ≤ key b) = true → decide (key b ≤ key c) = true →
      decide (key a ≤ key c) = true :=
  fun a b c => by simpa using le_trans

theorem keys_le_total (key : α → κ) :
    ∀ a b : α, (decide (key a ≤ key b) || decide (key b ≤ key a)) = true :=
  fun a b => by simpa using le_total (key a) (key b)

theorem pairwise_mergeSort_key (key : α → κ) (l : List α) :
    (l.mergeSort fun a b => key a ≤ key b).Pairwise fun a b => key a ≤ key b := by
  simpa using List.pairwise_mergeSort (keys_le_trans key) (keys_le_total key) l

/-- Sorting by keys leaves the entries of one key as they stand. -/
theorem filter_mergeSort (key : α → κ) (l : List α) (k : κ) :
    ((l.mergeSort fun a b => key a ≤ key b).filter fun a => key a = k) =
      l.filter fun a => key a = k := by
  -- The entries of the key are in order already, so they stand in this order in the sorted list too.
  have hordered : (l.filter fun a => key a = k).Pairwise fun a b => decide (key a ≤ key b) = true := by
    refine List.pairwise_of_forall_mem_list ?_
    intro a ha b hb
    have hka := of_decide_eq_true (List.mem_filter.1 ha).2
    have hkb := of_decide_eq_true (List.mem_filter.1 hb).2
    exact decide_eq_true (hka.trans hkb.symm).le
  have hsub : (l.filter fun a => key a = k).Sublist (l.mergeSort fun a b => key a ≤ key b) :=
    List.sublist_mergeSort (keys_le_trans key) (keys_le_total key) hordered List.filter_sublist
  have hkept := hsub.filter fun a => decide (key a = k)
  rw [List.filter_filter] at hkept
  simp only [Bool.and_self] at hkept
  exact (hkept.eq_of_length ((List.mergeSort_perm l _).filter _).length_eq.symm).symm

/-- The entries of each key determine a list in which keys do not decrease. -/
theorem eq_of_filter_eq {l l' : List α} (hl : l.Pairwise fun a b => key a ≤ key b)
    (hl' : l'.Pairwise fun a b => key a ≤ key b)
    (h : ∀ k, (l.filter fun a => key a = k) = l'.filter fun a => key a = k) : l = l' := by
  induction l generalizing l' with
  | nil =>
      cases l' with
      | nil => rfl
      | cons b l' => simpa using h (key b)
  | cons a l ih =>
      cases l' with
      | nil => simpa using h (key a)
      | cons b l' =>
          rw [List.pairwise_cons] at hl hl'
          -- Both lists begin with an entry of the least key.
          have hkeys : key a = key b := by
            have ha : a ∈ b :: l' :=
              List.mem_of_mem_filter (h (key a) ▸ List.mem_filter.2 ⟨List.mem_cons_self, by simp⟩)
            have hb : b ∈ a :: l :=
              List.mem_of_mem_filter ((h (key b)).symm ▸ List.mem_filter.2 ⟨List.mem_cons_self, by simp⟩)
            apply le_antisymm
            · rcases List.mem_cons.1 hb with rfl | hb
              · exact le_rfl
              · exact hl.1 b hb
            · rcases List.mem_cons.1 ha with rfl | ha
              · exact le_rfl
              · exact hl'.1 a ha
          have hfirst := h (key a)
          simp only [List.filter_cons, hkeys, decide_true, if_true, List.cons.injEq] at hfirst
          rcases hfirst with ⟨rfl, hrest⟩
          congr 1
          apply ih hl.2 hl'.2
          intro k
          by_cases hk : key a = k
          · exact hk ▸ hrest
          · simpa [List.filter_cons, hk] using h k

/-- The entries of each key determine what entries there are. -/
theorem perm_of_filter_eq [DecidableEq α] {l l' : List α}
    (h : ∀ k, (l.filter fun a => key a = k) = l'.filter fun a => key a = k) : l.Perm l' := by
  rw [List.perm_iff_count]
  intro a
  have hcount := congrArg (List.count a) (h (key a))
  rwa [List.count_filter (by simp), List.count_filter (by simp)] at hcount

/-- A list in which keys strictly increase is what sorting any rearrangement of it by keys gives. -/
theorem mergeSort_eq_of_perm {l sorted : List α}
    (hperm : l.Perm sorted) (hsorted : sorted.Pairwise fun a b => key a < key b) :
    (l.mergeSort fun a b => key a ≤ key b) = sorted := by
  have hp : (l.mergeSort fun a b => key a ≤ key b).Perm sorted :=
    (List.mergeSort_perm l _).trans hperm
  -- Two lists in order with the same entries are the same, since keys tell the entries apart.
  have hnodup : (sorted.map key).Nodup := List.pairwise_map.2 (hsorted.imp ne_of_lt)
  refine hp.eq_of_pairwise ?_ (pairwise_mergeSort_key key l) (hsorted.imp le_of_lt)
  intro a b ha hb hab hba
  exact List.inj_on_of_nodup_map hnodup (hp.subset ha) hb (le_antisymm hab hba)

end StableSort
end FormValidation
