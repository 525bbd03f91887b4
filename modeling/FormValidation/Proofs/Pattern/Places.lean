import FormValidation.Proofs.Pattern.Run

/-!
# Places in a text

The hits of an expression end in places of the text that is left where it begins (`Regex.within_hits`).
There a place is known by how many characters are before it, so keeping the first hit for each number of
characters loses no place (`Hit.endsAt_firsts`).
-/

namespace FormValidation
namespace Pattern

/-! ## Places of one text -/

namespace Cursor

variable {p q r : Cursor}

/-- The place lies in the text that is left from `p` on. -/
def Within (p q : Cursor) : Prop :=
  ∃ n ≤ p.rest.length, q = p.advance n

theorem Within.refl (p : Cursor) : p.Within p :=
  ⟨0, Nat.zero_le _, rfl⟩

theorem Within.trans (hq : p.Within q) (hr : q.Within r) : p.Within r := by
  rcases hq with ⟨m, hm, rfl⟩
  rcases hr with ⟨n, hn, rfl⟩
  rw [rest_advance, List.length_drop] at hn
  exact ⟨m + n, by omega, advance_advance p m n⟩

theorem Within.le_offset (h : p.Within q) : p.offset ≤ q.offset := by
  rcases h with ⟨n, hn, rfl⟩
  rw [offset_advance hn]
  exact Nat.le_add_right _ _

theorem Within.offset_le (h : p.Within q) : q.offset ≤ p.offset + p.rest.length := by
  rcases h with ⟨n, hn, rfl⟩
  rw [offset_advance hn]
  exact Nat.add_le_add_left hn _

theorem Within.length_le (h : p.Within q) : q.rest.length ≤ p.rest.length := by
  rcases h with ⟨n, -, rfl⟩
  rw [rest_advance, List.length_drop]
  exact Nat.sub_le _ _

/-- Within one text a place is known by how many characters are before it. -/
theorem Within.eq_of_offset_eq (hq : p.Within q) (hr : p.Within r) (h : q.offset = r.offset) :
    q = r := by
  rcases hq with ⟨m, hm, rfl⟩
  rcases hr with ⟨n, hn, rfl⟩
  rw [offset_advance hm, offset_advance hn] at h
  rw [Nat.add_left_cancel h]

theorem within_of_next? {c : Char} (h : p.next? = some (c, q)) : p.Within q := by
  rcases p with ⟨offset, before, _ | ⟨c', cs⟩⟩
  · simp [next?] at h
  · obtain ⟨-, rfl⟩ : c' = c ∧ _ = q := by simpa [next?] using h
    exact ⟨1, by simp, rfl⟩

theorem isSome_before_advance (n : Nat) (h : p.before.isSome = true) :
    (p.advance n).before.isSome = true := by
  induction n generalizing p with
  | zero => exact h
  | succ n ih =>
      rcases p with ⟨offset, before, _ | ⟨c, cs⟩⟩
      · exact h
      · exact ih (p := ⟨offset + 1, some c, cs⟩) rfl

/-- A place of a text without a character before it is where the text begins. -/
theorem Within.eq_start {cs : List Char} (h : (start cs).Within q) (hbefore : q.before = none) :
    q = start cs := by
  rcases h with ⟨_ | n, hn, rfl⟩
  · rfl
  · rcases cs with _ | ⟨c, cs⟩
    · cases hn
    · have hsome := isSome_before_advance (p := ⟨1, some c, cs⟩) n rfl
      rw [show (start (c :: cs)).advance (n + 1) = (⟨1, some c, cs⟩ : Cursor).advance n from rfl] at hbefore
      rw [hbefore] at hsome
      cases hsome

end Cursor

/-! ## Where hits end -/

namespace Hit

/-- Some hit of the list ends at the place. -/
def EndsAt (hs : List Hit) (q : Cursor) : Prop :=
  ∃ h ∈ hs, h.cursor = q

variable {hs hs' : List Hit} {p q : Cursor}

theorem endsAt_append : EndsAt (hs ++ hs') q ↔ EndsAt hs q ∨ EndsAt hs' q := by
  simp only [EndsAt, List.mem_append, or_and_right, exists_or]

theorem endsAt_singleton {h : Hit} : EndsAt [h] q ↔ h.cursor = q := by
  simp [EndsAt]

theorem endsAt_flatMap {f : Hit → List Hit} :
    EndsAt (hs.flatMap f) q ↔ ∃ h ∈ hs, EndsAt (f h) q := by
  constructor
  · rintro ⟨h', hmem, hq⟩
    rcases List.mem_flatMap.1 hmem with ⟨h, hh, hmem⟩
    exact ⟨h, hh, h', hmem, hq⟩
  · rintro ⟨h, hh, h', hmem, hq⟩
    exact ⟨h', List.mem_flatMap.2 ⟨h, hh, hmem⟩, hq⟩

theorem endsAt_firsts_iff {seen : List Nat} (hwithin : ∀ h ∈ hs, p.Within h.cursor) :
    EndsAt (firsts seen hs) q ↔ EndsAt hs q ∧ q.offset ∉ seen := by
  -- By induction on the hits, for any offsets that were seen before.
  induction hs generalizing seen with
  | nil => simp [firsts, EndsAt]
  | cons h hs ih =>
      have hhead : p.Within h.cursor := hwithin h List.mem_cons_self
      have hrest : ∀ h ∈ hs, p.Within h.cursor := fun h' hh' => hwithin h' (List.mem_cons_of_mem _ hh')
      have hcons : EndsAt (h :: hs) q ↔ h.cursor = q ∨ EndsAt hs q := by simp [EndsAt]
      by_cases hseen : h.cursor.offset ∈ seen
      · rw [firsts, if_pos (by simpa using hseen), ih hrest, hcons]
        constructor
        · rintro ⟨hq, hnew⟩
          exact ⟨.inr hq, hnew⟩
        · rintro ⟨rfl | hq, hnew⟩
          · exact absurd hseen hnew
          · exact ⟨hq, hnew⟩
      · have hfirsts : EndsAt (h :: firsts (h.cursor.offset :: seen) hs) q ↔
            h.cursor = q ∨ EndsAt (firsts (h.cursor.offset :: seen) hs) q := by simp [EndsAt]
        rw [firsts, if_neg (by simpa using hseen), hfirsts, ih hrest, hcons]
        constructor
        · rintro (rfl | ⟨hq, hnew⟩)
          · exact ⟨.inl rfl, hseen⟩
          · exact ⟨.inr hq, fun hmem => hnew (List.mem_cons_of_mem _ hmem)⟩
        · rintro ⟨rfl | hq, hnew⟩
          · exact .inl rfl
          · by_cases hoffset : q.offset = h.cursor.offset
            · -- The place of the first hit is the only one with its offset.
              rcases hq with ⟨h', hmem, rfl⟩
              exact .inl (hhead.eq_of_offset_eq (hrest h' hmem) hoffset.symm)
            · refine .inr ⟨hq, ?_⟩
              intro hmem
              rcases List.mem_cons.1 hmem with heq | hmem
              · exact hoffset heq
              · exact hnew hmem

/-- Keeping the first hit for each place loses no place. -/
theorem endsAt_firsts (hwithin : ∀ h ∈ hs, p.Within h.cursor) :
    EndsAt (firsts [] hs) q ↔ EndsAt hs q := by
  simp [endsAt_firsts_iff hwithin]

/-- Going on from every hit leads on from every place where one ends. -/
theorem endsAt_firsts_flatMap {f : Hit → List Hit} {A : Cursor → Prop} {S : Cursor → Cursor → Prop}
    (hA : ∀ m, EndsAt hs m ↔ A m) (hS : ∀ h q, EndsAt (f h) q ↔ S h.cursor q)
    (hwithin : ∀ m q, A m → S m q → p.Within q) :
    EndsAt (firsts [] (hs.flatMap f)) q ↔ ∃ m, A m ∧ S m q := by
  have hall : ∀ h ∈ hs.flatMap f, p.Within h.cursor := by
    intro h' hmem
    rcases List.mem_flatMap.1 hmem with ⟨h, hh, hmem⟩
    exact hwithin h.cursor h'.cursor ((hA _).1 ⟨h, hh, rfl⟩) ((hS h _).1 ⟨h', hmem, rfl⟩)
  rw [endsAt_firsts hall, endsAt_flatMap]
  constructor
  · rintro ⟨h, hh, hq⟩
    exact ⟨h.cursor, (hA _).1 ⟨h, hh, rfl⟩, (hS h q).1 hq⟩
  · rintro ⟨m, hm, hq⟩
    rcases (hA m).2 hm with ⟨h, hh, rfl⟩
    exact ⟨h, hh, (hS h q).2 hq⟩

end Hit

namespace Regex

theorem within_hits (r : Regex) (p : Hit) : ∀ q ∈ r.hits p, p.cursor.Within q.cursor :=
  r.hits_invariant (P := fun q => p.cursor.Within q)
    (fun _ _ _ hq hnext => hq.trans (Cursor.within_of_next? hnext)) p (.refl _)

end Regex
end Pattern
end FormValidation
