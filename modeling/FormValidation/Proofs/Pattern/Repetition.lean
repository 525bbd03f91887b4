import Mathlib.Data.Finset.Prod
import FormValidation.Proofs.Pattern.Walk

/-!
# Where repetitions end

A repetition ends where its body leads to when it is taken as often as it has to be, and then as often
again as it may be (`Repetition.endsAt_hits`).  The steps that its walks are given are enough, since a
loop has one mark for each place and each number of matches that are still allowed.
-/

namespace FormValidation
namespace Pattern
namespace Repetition

open Hit (EndsAt)

variable {body : Hit → List Hit} {R : Cursor → Cursor → Prop}

/-! ## Loops with a bound -/

/-- The marks of a loop with a bound, one for each place and each number of matches still allowed. -/
def boundedMarks (bound : Nat) (p : Cursor) : Finset Nat :=
  (Finset.range (bound + 1) ×ˢ Finset.Icc p.offset (p.offset + p.rest.length)).image fun m =>
    m.1 * (p.offset + p.rest.length + 1) + m.2

theorem card_boundedMarks_le (bound : Nat) (p : Cursor) :
    (boundedMarks bound p).card ≤ (bound + 1) * (p.rest.length + 1) := by
  calc
    (boundedMarks bound p).card
        ≤ (Finset.range (bound + 1) ×ˢ Finset.Icc p.offset (p.offset + p.rest.length)).card :=
      Finset.card_image_le
    _ = (bound + 1) * (p.rest.length + 1) := by
      rw [Finset.card_product, Finset.card_range, Nat.card_Icc, Nat.add_assoc, Nat.add_sub_cancel_left]

theorem arena_bounded (hbody : Finds body R) (bound : Nat) (p : Cursor) :
    Arena body R (p.offset + p.rest.length + 1) (p.rest.length + 1) (boundedMarks bound p)
      fun s => p.Within s.2 ∧ ∃ k ≤ bound, s.1 = some k where
  next := by
    rintro ⟨-, q⟩ t ⟨hq, k, hk, rfl⟩ hnext
    cases hnext with
    | counted hstep => exact ⟨hq.trans (hbody.within_of_step hstep), _, Nat.le_of_succ_le hk, rfl⟩
  mem_marks := by
    rintro ⟨-, q⟩ ⟨hq, k, hk, rfl⟩
    refine Finset.mem_image.2 ⟨(k, q.offset), ?_, rfl⟩
    exact Finset.mem_product.2 ⟨Finset.mem_range.2 (Nat.lt_succ_of_le hk),
      Finset.mem_Icc.2 ⟨hq.le_offset, hq.offset_le⟩⟩
  eq_of_mark := by
    rintro ⟨-, q⟩ ⟨-, r⟩ ⟨hq, k, -, rfl⟩ ⟨hr, j, -, rfl⟩ heq
    have hq' : q.offset < p.offset + p.rest.length + 1 := Nat.lt_succ_of_le hq.offset_le
    have hr' : r.offset < p.offset + p.rest.length + 1 := Nat.lt_succ_of_le hr.offset_le
    simp only [Stage.mark, Option.getD_some] at heq
    -- Every offset is less than the stride.
    have hcount : k = j := by
      have h := congrArg (· / (p.offset + p.rest.length + 1)) heq
      simpa [Nat.mul_add_div, Nat.mul_comm _ (p.offset + p.rest.length + 1),
        Nat.div_eq_of_lt hq', Nat.div_eq_of_lt hr'] using h
    subst hcount
    have hplace : q = r := hq.eq_of_offset_eq hr (Nat.add_left_cancel heq)
    rw [hplace]
  length_onward := by
    intro more h hallowed
    exact ((length_onward_le more h).trans (hbody.length_le h)).trans
      (Nat.succ_le_succ hallowed.1.length_le)

theorem reach_of_times {n k : Nat} (hn : n ≤ k) {p q : Cursor} (h : Times R n p q) :
    Relation.ReflTransGen (Next R) (some k, p) (some (k - n), q) := by
  induction n generalizing k p with
  | zero =>
      rcases h with rfl
      exact .refl
  | succ n ih =>
      rcases h with ⟨m, hm, hq⟩
      obtain ⟨k, rfl⟩ : ∃ j, k = j + 1 := ⟨k - 1, by omega⟩
      rw [Nat.succ_sub_succ]
      exact .head (.counted hm) (ih (Nat.le_of_succ_le_succ hn) hq)

theorem endsAt_upTo (hbody : Finds body R) (greedy : Bool) (bound : Nat) (h : Hit) (q : Cursor) :
    EndsAt (upTo body greedy bound h) q ↔ ∃ n ≤ bound, Times R n h.cursor q := by
  have hstart : ∀ v ∈ [Visit.enter (some bound) h], h.cursor.Within v.hit.cursor := by
    intro v hv
    rw [List.mem_singleton.1 hv]
    exact .refl _
  rw [upTo, Hit.endsAt_firsts (hbody.within_walk greedy _ _ hstart)]
  constructor
  · rintro ⟨q', hq', rfl⟩
    rcases exists_leads_of_mem_walk hbody greedy _ _ _ hq' with ⟨v, hv, hleads⟩
    rw [List.mem_singleton.1 hv] at hleads
    rcases hleads with ⟨n, hn, hq⟩
    exact ⟨n, hn bound rfl, hq⟩
  · rintro ⟨n, hn, hq⟩
    have hallowed : ∀ more h', .enter more h' ∈ [Visit.enter (some bound) h] →
        h.cursor.Within h'.cursor ∧ ∃ k ≤ bound, more = some k := by
      intro more h' hmem
      cases List.mem_singleton.1 hmem
      exact ⟨.refl _, bound, Nat.le_refl _, rfl⟩
    have hfuel : [Visit.enter (some bound) h].length +
        (h.cursor.rest.length + 1 + 1) * (boundedMarks bound h.cursor).card ≤ enough bound h :=
      le_enough h (Nat.le_add_left 1 _) (card_boundedMarks_le bound h.cursor)
    exact (endsAt_walk hbody (arena_bounded hbody bound h.cursor) greedy hallowed hfuel).2 _ _ _
      List.mem_cons_self (reach_of_times hn hq)

/-! ## Loops without a bound -/

theorem arena_unbounded (hbody : Finds body R) (p : Cursor) :
    Arena body R 0 (p.rest.length + 1) (Finset.Icc p.offset (p.offset + p.rest.length))
      fun s => p.Within s.2 ∧ s.1 = none where
  next := by
    rintro ⟨-, q⟩ t ⟨hq, rfl⟩ hnext
    cases hnext with
    | free hstep _ => exact ⟨hq.trans (hbody.within_of_step hstep), rfl⟩
  mem_marks := by
    rintro ⟨-, q⟩ ⟨hq, rfl⟩
    simpa [Stage.mark] using ⟨hq.le_offset, hq.offset_le⟩
  eq_of_mark := by
    rintro ⟨-, q⟩ ⟨-, r⟩ ⟨hq, rfl⟩ ⟨hr, rfl⟩ heq
    have hplace : q = r := hq.eq_of_offset_eq hr (by simpa [Stage.mark] using heq)
    rw [hplace]
  length_onward := by
    intro more h hallowed
    exact ((length_onward_le more h).trans (hbody.length_le h)).trans
      (Nat.succ_le_succ hallowed.1.length_le)

/-- Matches of the empty text can be left out. -/
theorem reach_of_times_none (hbody : Finds body R) {n : Nat} {p q : Cursor} (h : Times R n p q) :
    Relation.ReflTransGen (Next R) (none, p) (none, q) := by
  induction n generalizing p with
  | zero =>
      rcases h with rfl
      exact .refl
  | succ n ih =>
      rcases h with ⟨m, hm, hq⟩
      by_cases hsame : m.offset = p.offset
      · have hmp : p = m := (Cursor.Within.refl p).eq_of_offset_eq (hbody.within_of_step hm) hsame.symm
        exact hmp ▸ ih hq
      · exact .head (.free hm hsame) (ih hq)

/-- The visits that a loop which needs a match begins with. -/
def firstVisits (body : Hit → List Hit) (h : Hit) : List Visit :=
  (body h).map fun q =>
    if q.cursor.offset == h.cursor.offset then Visit.leave q else Visit.enter none q

theorem mem_firstVisits {h : Hit} {v : Visit} :
    v ∈ firstVisits body h ↔ ∃ q ∈ body h,
      (q.cursor.offset = h.cursor.offset ∧ v = .leave q) ∨
        (q.cursor.offset ≠ h.cursor.offset ∧ v = .enter none q) := by
  rw [firstVisits, List.mem_map]
  refine exists_congr fun q => and_congr_right fun _ => ?_
  by_cases hsame : q.cursor.offset = h.cursor.offset
  · simp only [hsame, beq_self_eq_true, if_true, true_and, ne_eq, not_true, false_and, or_false]
    exact eq_comm
  · simp only [beq_iff_eq, hsame, if_false, false_and, ne_eq, not_false_iff, true_and, false_or]
    exact eq_comm

theorem length_firstVisits_le (hbody : Finds body R) (h : Hit) :
    (firstVisits body h).length + (h.cursor.rest.length + 1 + 1) *
      (Finset.Icc h.cursor.offset (h.cursor.offset + h.cursor.rest.length)).card ≤ enough 0 h := by
  refine le_enough h ?_ ?_
  · rw [firstVisits, List.length_map]
    exact hbody.length_le h
  · rw [Nat.card_Icc]
    omega

/-- A match from which more matches lead back is one of the empty text. -/
theorem Finds.eq_of_times (hbody : Finds body R) {n : Nat} {p m : Cursor} (hm : R p m)
    (hback : Times R n m p) : m = p := by
  have hwithin := hbody.within_of_step hm
  refine hwithin.eq_of_offset_eq (.refl p) (Nat.le_antisymm ?_ hwithin.le_offset)
  exact (hbody.within_of_times hback).le_offset

theorem endsAt_plus (hbody : Finds body R) (greedy : Bool) (h : Hit) (q : Cursor) :
    EndsAt (plus body greedy h) q ↔ ∃ n, Times R (n + 1) h.cursor q := by
  have hstart : ∀ v ∈ firstVisits body h, h.cursor.Within v.hit.cursor := by
    intro v hv
    rcases mem_firstVisits.1 hv with ⟨q, hq, ⟨-, rfl⟩ | ⟨-, rfl⟩⟩ <;> exact hbody.within h q hq
  have hplus : EndsAt (plus body greedy h) q ↔
      EndsAt (walk body greedy 0 (enough 0 h) [] (firstVisits body h)) q :=
    Hit.endsAt_firsts (hbody.within_walk greedy _ _ hstart)
  rw [hplus]
  constructor
  · rintro ⟨q', hq', rfl⟩
    rcases exists_leads_of_mem_walk hbody greedy _ _ _ hq' with ⟨v, hv, hleads⟩
    rcases mem_firstVisits.1 hv with ⟨m, hm, ⟨-, rfl⟩ | ⟨-, rfl⟩⟩
    · exact ⟨0, times_one.2 ((hbody.ends h _).1 ⟨m, hm, hleads⟩)⟩
    · rcases hleads with ⟨n, -, hq⟩
      exact ⟨n, m.cursor, (hbody.ends h _).1 ⟨m, hm, rfl⟩, hq⟩
  · rintro ⟨n, m, hm, hq⟩
    have hallowed : ∀ more h', .enter more h' ∈ firstVisits body h →
        h.cursor.Within h'.cursor ∧ more = none := by
      intro more h' hv
      rcases mem_firstVisits.1 hv with ⟨q, hq, ⟨-, heq⟩ | ⟨-, heq⟩⟩
      · cases heq
      · cases heq
        exact ⟨hbody.within h _ hq, rfl⟩
    rcases endsAt_walk hbody (arena_unbounded hbody h.cursor) greedy hallowed
      (length_firstVisits_le hbody h) with ⟨hleave, henter⟩
    -- What matters is the first match that leads on, if there is one.
    have hreach : Relation.ReflTransGen (Next R) (none, h.cursor) (none, q) :=
      reach_of_times_none hbody (n := n + 1) ⟨m, hm, hq⟩
    rcases hreach.cases_head with heq | ⟨s, hnext, hreach⟩
    · -- Nothing leads on, so the first match is one of the empty text.
      obtain rfl : h.cursor = q := congrArg Prod.snd heq
      rcases (hbody.ends h m).2 hm with ⟨h', hmem, rfl⟩
      have hsame : h'.cursor = h.cursor := hbody.eq_of_times hm hq
      rw [← hsame]
      exact hleave h' (mem_firstVisits.2 ⟨h', hmem, .inl ⟨congrArg _ hsame, rfl⟩⟩)
    · cases hnext with
      | free hstep hne =>
          rcases (hbody.ends h _).2 hstep with ⟨h', hmem, rfl⟩
          exact henter none h' (none, q) (mem_firstVisits.2 ⟨h', hmem, .inr ⟨hne, rfl⟩⟩) hreach

/-! ## Repetitions -/

theorem endsAt_copies (hbody : Finds body R) (n : Nat) {p q : Cursor} {hs : List Hit}
    (hwithin : ∀ h ∈ hs, p.Within h.cursor) :
    EndsAt (copies body n hs) q ↔ ∃ m, EndsAt hs m ∧ Times R n m q := by
  -- By induction on the number of copies, for the hits of any number of copies before them.
  induction n generalizing hs with
  | zero => simp [copies, Times]
  | succ n ih =>
      have hbehind : ∀ h ∈ hs.flatMap body, p.Within h.cursor := by
        intro h' hmem
        rcases List.mem_flatMap.1 hmem with ⟨h, hh, hmem⟩
        exact (hwithin h hh).trans (hbody.within h h' hmem)
      have hstep : ∀ m, EndsAt (Hit.firsts [] (hs.flatMap body)) m ↔ ∃ x, EndsAt hs x ∧ R x m := by
        intro m
        refine Hit.endsAt_firsts_flatMap (p := p) (fun _ => Iff.rfl) hbody.ends ?_
        rintro x q ⟨h, hh, rfl⟩ hq
        exact (hwithin h hh).trans (hbody.within_of_step hq)
      rw [copies, ih fun h hmem => hbehind h (Hit.mem_of_mem_firsts hmem)]
      constructor
      · rintro ⟨m, hm, hq⟩
        rcases (hstep m).1 hm with ⟨x, hx, hxm⟩
        exact ⟨x, hx, m, hxm, hq⟩
      · rintro ⟨x, hx, m, hxm, hq⟩
        exact ⟨m, (hstep m).2 ⟨x, hx, hxm⟩, hq⟩

/-- Copies of the body with a loop behind them. -/
theorem endsAt_copies_flatMap (hbody : Finds body R) (n : Nat) (h : Hit) {loop : Hit → List Hit}
    (L : Cursor → Cursor → Prop) (hloop : ∀ h q, EndsAt (loop h) q ↔ L h.cursor q)
    (htimes : ∀ p q, L p q → ∃ n, Times R n p q) (q : Cursor) :
    EndsAt (Hit.firsts [] ((copies body n [h]).flatMap loop)) q ↔
      ∃ m, Times R n h.cursor m ∧ L m q := by
  have hself : ∀ h' ∈ [h], h.cursor.Within h'.cursor := by
    intro h' hmem
    rw [List.mem_singleton.1 hmem]
    exact .refl _
  have hcopies : ∀ m, EndsAt (copies body n [h]) m ↔ Times R n h.cursor m := by
    intro m
    simp only [endsAt_copies hbody n hself, Hit.endsAt_singleton, exists_eq_left']
  refine Hit.endsAt_firsts_flatMap (p := h.cursor) hcopies hloop ?_
  intro m q hm hq
  rcases htimes m q hq with ⟨k, hk⟩
  exact (hbody.within_of_times hm).trans (hbody.within_of_times hk)

theorem endsAt_star (hbody : Finds body R) (greedy : Bool) (h : Hit) (q : Cursor) :
    EndsAt (star body greedy h) q ↔ ∃ n, Times R n h.cursor q := by
  have hwithin : ∀ q ∈ (if greedy then plus body greedy h ++ [h] else h :: plus body greedy h),
      h.cursor.Within q.cursor := by
    have hplus := plus_invariant (P := fun x => h.cursor.Within x.cursor)
      (fun h' hh' q hq => hh'.trans (hbody.within h' q hq)) greedy h (.refl _)
    have hself := Cursor.Within.refl h.cursor
    cases greedy <;> simp <;> grind
  have hcases : EndsAt (star body greedy h) q ↔ EndsAt (plus body greedy h) q ∨ h.cursor = q := by
    rw [star, Hit.endsAt_firsts hwithin]
    cases greedy with
    | true => rw [if_pos rfl, Hit.endsAt_append, Hit.endsAt_singleton]
    | false => simp [EndsAt, or_comm]
  rw [hcases, endsAt_plus hbody]
  constructor
  · rintro (⟨n, hq⟩ | hq)
    · exact ⟨n + 1, hq⟩
    · exact ⟨0, hq⟩
  · rintro ⟨_ | n, hq⟩
    · exact .inr hq
    · exact .inl ⟨n, hq⟩

/-- A repetition ends where its body leads to when it is taken as often as it has to be, and then as often
again as it may be. -/
theorem endsAt_hits (hbody : Finds body R) (min : Nat) (max : Option Nat) (greedy : Bool) (h : Hit)
    (q : Cursor) :
    EndsAt (hits body min max greedy h) q ↔
      ∃ n, (∀ m ∈ max, n ≤ m - min) ∧ Times R (min + n) h.cursor q := by
  cases max with
  | some m =>
      have hreach : ∀ p q, (∃ n ≤ m - min, Times R n p q) → ∃ n, Times R n p q := by
        rintro p q ⟨n, -, hn⟩
        exact ⟨n, hn⟩
      rw [hits, endsAt_copies_flatMap hbody min h (fun p q => ∃ n ≤ m - min, Times R n p q)
        (endsAt_upTo hbody greedy (m - min)) hreach]
      constructor
      · rintro ⟨x, hx, n, hn, hq⟩
        exact ⟨n, by simpa using hn, times_add.2 ⟨x, hx, hq⟩⟩
      · rintro ⟨n, hn, hq⟩
        rcases times_add.1 hq with ⟨x, hx, hq⟩
        exact ⟨x, hx, n, hn m rfl, hq⟩
  | none =>
      cases min with
      | zero =>
          rw [hits, endsAt_star hbody]
          simp
      | succ k =>
          have hreach : ∀ p q, (∃ n, Times R (n + 1) p q) → ∃ n, Times R n p q := by
            rintro p q ⟨n, hn⟩
            exact ⟨n + 1, hn⟩
          rw [hits, endsAt_copies_flatMap hbody k h (fun p q => ∃ n, Times R (n + 1) p q)
            (endsAt_plus hbody greedy) hreach]
          constructor
          · rintro ⟨x, hx, n, hq⟩
            refine ⟨n, by simp, ?_⟩
            rw [Nat.add_assoc, Nat.add_comm 1]
            exact times_add.2 ⟨x, hx, hq⟩
          · rintro ⟨n, -, hq⟩
            rw [Nat.add_assoc, Nat.add_comm 1] at hq
            rcases times_add.1 hq with ⟨x, hx, hq⟩
            exact ⟨x, hx, n, hq⟩

end Repetition
end Pattern
end FormValidation
