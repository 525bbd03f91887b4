import Mathlib.Data.List.Induction

/-!
# The latest items of a history

A history is a list of items, each about something, and a later item about the same thing supersedes an earlier
one.  An item is the latest if none behind it is about the same (`Latest`).  An item that comes next is the latest
one, and leaves the latest items about other things as they are (`latest_concat_iff`).
-/

namespace FormValidation

variable {α κ : Type} {l before after : List α} {a b : α}

/-- A part of a history with one item behind it is that item, or a part of the history before. -/
theorem concat_eq_append_cons (h : l ++ [b] = before ++ a :: after) :
    (after = [] ∧ before = l ∧ a = b) ∨ ∃ after', after = after' ++ [b] ∧ l = before ++ a :: after' := by
  rcases List.eq_nil_or_concat after with rfl | ⟨after', c, rfl⟩
  · rcases List.append_inj' h rfl with ⟨hl, hab⟩
    exact .inl ⟨rfl, hl.symm, (List.singleton_inj.1 hab).symm⟩
  · have hsplit : l ++ [b] = (before ++ a :: after') ++ [c] := by
      rw [h, List.concat_eq_append, List.append_assoc, List.cons_append]
    rcases List.append_inj' hsplit rfl with ⟨hl, hbc⟩
    refine .inr ⟨after', ?_, hl⟩
    rw [List.concat_eq_append, List.singleton_inj.1 hbc]

/-- The item is in the history, and none behind it is about the same. -/
def Latest (about : α → κ) (history : List α) (a : α) : Prop :=
  ∃ before after, history = before ++ a :: after ∧ ∀ b ∈ after, about b ≠ about a

variable {about : α → κ}

theorem not_latest_nil : ¬Latest about [] a := by
  rintro ⟨before, after, h, -⟩
  cases before <;> cases h

theorem latest_concat_iff : Latest about (l ++ [b]) a ↔ a = b ∨ about b ≠ about a ∧ Latest about l a := by
  constructor
  · rintro ⟨before, after, h, hafter⟩
    rcases concat_eq_append_cons h with ⟨-, -, hab⟩ | ⟨after', rfl, hl⟩
    · exact .inl hab
    · rw [List.forall_mem_append, List.forall_mem_singleton] at hafter
      exact .inr ⟨hafter.2, before, after', hl, hafter.1⟩
  · rintro (rfl | ⟨hb, before, after, rfl, hafter⟩)
    · exact ⟨l, [], rfl, nofun⟩
    · refine ⟨before, after ++ [b], by simp, ?_⟩
      rw [List.forall_mem_append, List.forall_mem_singleton]
      exact ⟨hafter, hb⟩

/-- There is one latest item about a thing. -/
theorem Latest.unique (ha : Latest about l a) (hb : Latest about l b) (h : about a = about b) : a = b := by
  induction l using List.reverseRecOn with
  | nil => exact absurd ha not_latest_nil
  | append_singleton l c ih =>
      rcases latest_concat_iff.1 ha with rfl | ⟨hca, ha⟩
      · rcases latest_concat_iff.1 hb with rfl | ⟨hcb, -⟩
        · rfl
        · exact absurd h hcb
      · rcases latest_concat_iff.1 hb with rfl | ⟨-, hb⟩
        · exact absurd h.symm hca
        · exact ih ha hb

end FormValidation
