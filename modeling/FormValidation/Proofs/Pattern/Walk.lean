import Mathlib.Data.Finset.Card
import Mathlib.Logic.Relation
import Mathlib.Order.Interval.Finset.Nat
import FormValidation.Proofs.Pattern.Places

/-!
# Walks

The walk of a repetition goes from place to place, marks where it was and never enters a stage twice.
Nothing is lost that way: if the body of the repetition ends in exactly the places that a relation leads
to, the walk lists exactly what its visits lead to.

* `Repetition.Finds` — a body ends in the places that a relation leads to;
* `Repetition.Arena` — stages that marks tell apart, and how many there are;
* `Repetition.Pending` — what a walk owes, and `Repetition.exists_settled` — that it pays all of it;
* `Repetition.endsAt_walk` and `Repetition.exists_leads_of_mem_walk` — the places that a walk lists.
-/

namespace FormValidation
namespace Pattern

namespace Repetition

open Hit (EndsAt)

/-! ## Steps of a relation -/

/-- So many steps of a relation after each other. -/
def Times (R : Cursor → Cursor → Prop) : Nat → Cursor → Cursor → Prop
  | 0, p, q => p = q
  | n + 1, p, q => ∃ m, R p m ∧ Times R n m q

theorem times_add {R : Cursor → Cursor → Prop} {m n : Nat} {p q : Cursor} :
    Times R (m + n) p q ↔ ∃ x, Times R m p x ∧ Times R n x q := by
  induction m generalizing p with
  | zero => simp [Times]
  | succ m ih =>
      rw [Nat.succ_add]
      constructor
      · rintro ⟨y, hy, hq⟩
        rcases ih.1 hq with ⟨x, hx, hq⟩
        exact ⟨x, ⟨y, hy, hx⟩, hq⟩
      · rintro ⟨x, ⟨y, hy, hx⟩, hq⟩
        exact ⟨y, hy, ih.2 ⟨x, hx, hq⟩⟩

theorem times_one {R : Cursor → Cursor → Prop} {p q : Cursor} : Times R 1 p q ↔ R p q := by
  simp [Times]

/-- A body ends in the places that a relation leads to, all of the same text and each once. -/
structure Finds (body : Hit → List Hit) (R : Cursor → Cursor → Prop) : Prop where
  ends : ∀ h q, EndsAt (body h) q ↔ R h.cursor q
  within : ∀ h, ∀ q ∈ body h, h.cursor.Within q.cursor
  nodup : ∀ h, ((body h).map (·.cursor.offset)).Nodup

variable {body : Hit → List Hit} {R : Cursor → Cursor → Prop}

namespace Finds

theorem within_of_step (hbody : Finds body R) {p q : Cursor} (h : R p q) : p.Within q := by
  rcases (hbody.ends ⟨p, []⟩ q).2 h with ⟨h', hmem, rfl⟩
  exact hbody.within _ h' hmem

theorem within_of_times (hbody : Finds body R) {n : Nat} {p q : Cursor} (h : Times R n p q) :
    p.Within q := by
  induction n generalizing p with
  | zero => exact h ▸ .refl p
  | succ n ih =>
      rcases h with ⟨m, hm, hq⟩
      exact (hbody.within_of_step hm).trans (ih hq)

/-- There are no more hits than places. -/
theorem length_le (hbody : Finds body R) (h : Hit) :
    (body h).length ≤ h.cursor.rest.length + 1 := by
  have hmem : ((body h).map (·.cursor.offset)).toFinset ⊆
      Finset.Icc h.cursor.offset (h.cursor.offset + h.cursor.rest.length) := by
    intro offset hoffset
    rcases List.mem_map.1 (List.mem_toFinset.1 hoffset) with ⟨q, hq, rfl⟩
    have hwithin := hbody.within h q hq
    exact Finset.mem_Icc.2 ⟨hwithin.le_offset, hwithin.offset_le⟩
  calc
    (body h).length = ((body h).map (·.cursor.offset)).toFinset.card := by
      rw [List.toFinset_card_of_nodup (hbody.nodup h), List.length_map]
    _ ≤ (Finset.Icc h.cursor.offset (h.cursor.offset + h.cursor.rest.length)).card :=
      Finset.card_le_card hmem
    _ = h.cursor.rest.length + 1 := by
      rw [Nat.card_Icc]
      omega

end Finds

/-! ## The places that a walk enters -/

/-- A place, and how many more matches are allowed there. -/
abbrev Stage := Option Nat × Cursor

/-- One more match leads from stage to stage.  In a loop without a bound it has to lead on. -/
inductive Next (R : Cursor → Cursor → Prop) : Stage → Stage → Prop where
  | free {p q : Cursor} : R p q → q.offset ≠ p.offset → Next R (none, p) (none, q)
  | counted {k : Nat} {p q : Cursor} : R p q → Next R (some (k + 1), p) (some k, q)

/-- The number under which a stage is marked as visited. -/
def Stage.mark (stride : Nat) (s : Stage) : Nat :=
  s.1.getD 0 * stride + s.2.offset

theorem exists_of_mem_onward {more : Option Nat} {h : Hit} {v : Visit}
    (hv : v ∈ onward body more h) : ∃ more' h', v = .enter more' h' := by
  unfold onward at hv
  split at hv
  · rcases List.mem_map.1 hv with ⟨q, -, rfl⟩
    exact ⟨none, q, rfl⟩
  · simp at hv
  · rcases List.mem_map.1 hv with ⟨q, -, rfl⟩
    exact ⟨_, q, rfl⟩

/-- A place leads to visits of exactly the stages that come next. -/
theorem mem_onward_iff (hbody : Finds body R) {more : Option Nat} {h : Hit} {s : Stage} :
    (∃ h', .enter s.1 h' ∈ onward body more h ∧ h'.cursor = s.2) ↔ Next R (more, h.cursor) s := by
  rcases s with ⟨more', q⟩
  constructor
  · rintro ⟨h', hv, rfl⟩
    unfold onward at hv
    split at hv
    · rcases List.mem_map.1 hv with ⟨q, hq, heq⟩
      cases heq
      rcases List.mem_filter.1 hq with ⟨hq, hne⟩
      exact .free ((hbody.ends h _).1 ⟨_, hq, rfl⟩) (by simpa using hne)
    · simp at hv
    · rcases List.mem_map.1 hv with ⟨q, hq, heq⟩
      cases heq
      exact .counted ((hbody.ends h _).1 ⟨_, hq, rfl⟩)
  · intro hnext
    cases hnext with
    | free hstep hne =>
        rcases (hbody.ends h q).2 hstep with ⟨h', hmem, rfl⟩
        exact ⟨h', by simpa [onward] using ⟨hmem, hne⟩, rfl⟩
    | counted hstep =>
        rcases (hbody.ends h q).2 hstep with ⟨h', hmem, rfl⟩
        exact ⟨h', by simpa [onward] using hmem, rfl⟩

theorem length_onward_le (more : Option Nat) (h : Hit) :
    (onward body more h).length ≤ (body h).length := by
  unfold onward
  split
  · simpa using List.length_filter_le _ _
  · simp
  · simp

/-- The stages that a walk may enter: they have marks of their own, of which there are finitely many, and
lead to so many visits each. -/
structure Arena (body : Hit → List Hit) (R : Cursor → Cursor → Prop) (stride width : Nat)
    (marks : Finset Nat) (allowed : Stage → Prop) : Prop where
  next : ∀ {s t}, allowed s → Next R s t → allowed t
  mem_marks : ∀ {s}, allowed s → s.mark stride ∈ marks
  eq_of_mark : ∀ {s t}, allowed s → allowed t → s.mark stride = t.mark stride → s = t
  length_onward : ∀ {more h}, allowed (more, h.cursor) → (onward body more h).length ≤ width

/-! ## What a walk owes -/

variable {stride width : Nat} {marks : Finset Nat} {allowed : Stage → Prop}

/-- Every stage that is marked is listed or about to be, and so is every stage that comes next. -/
structure Pending (R : Cursor → Cursor → Prop) (stride : Nat) (allowed : Stage → Prop)
    (listed : Cursor → Prop) (seen : List Nat) (visits : List Visit) : Prop where
  leaves : ∀ s, allowed s → s.mark stride ∈ seen →
    listed s.2 ∨ ∃ h, .leave h ∈ visits ∧ h.cursor = s.2
  enters : ∀ s t, allowed s → s.mark stride ∈ seen → Next R s t →
    t.mark stride ∈ seen ∨ ∃ h, .enter t.1 h ∈ visits ∧ h.cursor = t.2

variable {listed : Cursor → Prop} {seen : List Nat} {visits visits' : List Visit}

/-- A hit that is listed is owed no longer. -/
theorem Pending.leave {h : Hit} (hpending : Pending R stride allowed listed seen (.leave h :: visits))
    (hlisted : listed h.cursor) : Pending R stride allowed listed seen visits where
  leaves := by
    intro s hs hseen
    rcases hpending.leaves s hs hseen with hl | ⟨h', hmem, hcursor⟩
    · exact .inl hl
    · rcases List.mem_cons.1 hmem with heq | hmem
      · cases heq
        exact .inl (hcursor ▸ hlisted)
      · exact .inr ⟨h', hmem, hcursor⟩
  enters := by
    intro s t hs hseen hnext
    rcases hpending.enters s t hs hseen hnext with hl | ⟨h', hmem, hcursor⟩
    · exact .inl hl
    · exact .inr ⟨h', by simpa using hmem, hcursor⟩

/-- A stage that was entered before need not be entered again. -/
theorem Pending.skip {more : Option Nat} {h : Hit}
    (hpending : Pending R stride allowed listed seen (.enter more h :: visits))
    (hmark : mark stride more h ∈ seen) : Pending R stride allowed listed seen visits where
  leaves := by
    intro s hs hseen
    rcases hpending.leaves s hs hseen with hl | ⟨h', hmem, hcursor⟩
    · exact .inl hl
    · exact .inr ⟨h', by simpa using hmem, hcursor⟩
  enters := by
    intro s t hs hseen hnext
    rcases hpending.enters s t hs hseen hnext with hl | ⟨h', hmem, hcursor⟩
    · exact .inl hl
    · rcases List.mem_cons.1 hmem with heq | hmem
      · cases heq
        refine .inl ?_
        rwa [Stage.mark, ← hcursor]
      · exact .inr ⟨h', hmem, hcursor⟩

/-- A stage that is entered owes itself and all that comes next. -/
theorem Pending.enter {more : Option Nat} {h : Hit} (hbody : Finds body R)
    (harena : Arena body R stride width marks allowed) (hallowed : allowed (more, h.cursor))
    (hpending : Pending R stride allowed listed seen (.enter more h :: visits))
    (hvisits : ∀ v, v ∈ visits' ↔ v ∈ onward body more h ∨ v = .leave h ∨ v ∈ visits) :
    Pending R stride allowed listed (mark stride more h :: seen) visits' where
  leaves := by
    intro s hs hseen
    rcases List.mem_cons.1 hseen with hmark | hseen
    · rw [harena.eq_of_mark hs hallowed hmark]
      exact .inr ⟨h, (hvisits _).2 (.inr (.inl rfl)), rfl⟩
    · rcases hpending.leaves s hs hseen with hl | ⟨h', hmem, hcursor⟩
      · exact .inl hl
      · exact .inr ⟨h', (hvisits _).2 (.inr (.inr (by simpa using hmem))), hcursor⟩
  enters := by
    intro s t hs hseen hnext
    rcases List.mem_cons.1 hseen with hmark | hseen
    · rw [harena.eq_of_mark hs hallowed hmark] at hnext
      rcases (mem_onward_iff hbody).2 hnext with ⟨h', hmem, hcursor⟩
      exact .inr ⟨h', (hvisits _).2 (.inl hmem), hcursor⟩
    · rcases hpending.enters s t hs hseen hnext with hl | ⟨h', hmem, hcursor⟩
      · exact .inl (List.mem_cons_of_mem _ hl)
      · rcases List.mem_cons.1 hmem with heq | hmem
        · cases heq
          refine .inl ?_
          rw [Stage.mark, ← hcursor]
          exact List.mem_cons_self
        · exact .inr ⟨h', (hvisits _).2 (.inr (.inr hmem)), hcursor⟩

/-- A stage that is entered leads to stages that may be entered. -/
theorem Arena.allowed_of_enter {more : Option Nat} {h : Hit} (hbody : Finds body R)
    (harena : Arena body R stride width marks allowed) (hstage : allowed (more, h.cursor))
    (hrest : ∀ more h, .enter more h ∈ visits → allowed (more, h.cursor))
    (hvisits : ∀ v, v ∈ visits' ↔ v ∈ onward body more h ∨ v = .leave h ∨ v ∈ visits) :
    ∀ more h, .enter more h ∈ visits' → allowed (more, h.cursor) := by
  intro more' h' hv
  rcases (hvisits _).1 hv with hv | hv | hv
  · exact harena.next hstage ((mem_onward_iff (s := (more', h'.cursor)) hbody).1 ⟨h', hv, rfl⟩)
  · cases hv
  · exact hrest more' h' hv

/-- A mark that is set is one mark less to be set. -/
theorem card_unseen_cons {m : Nat} (hm : m ∈ marks) (hnew : m ∉ seen) :
    (marks.filter (· ∉ m :: seen)).card < (marks.filter (· ∉ seen)).card := by
  refine Finset.card_lt_card (Finset.ssubset_iff_of_subset ?_ |>.2 ⟨m, ?_, ?_⟩)
  · intro n hn
    rw [Finset.mem_filter] at hn ⊢
    exact ⟨hn.1, fun hmem => hn.2 (List.mem_cons_of_mem _ hmem)⟩
  · exact Finset.mem_filter.2 ⟨hm, hnew⟩
  · simp

/-- Entering a new stage marks it and adds visits of itself and of all that comes next. -/
theorem exists_walk_eq (body : Hit → List Hit) {more : Option Nat} {h : Hit}
    (hnew : mark stride more h ∉ seen) (greedy : Bool) (fuel : Nat) (visits : List Visit) :
    ∃ visits', walk body greedy stride (fuel + 1) seen (.enter more h :: visits) =
        walk body greedy stride fuel (mark stride more h :: seen) visits' ∧
      (∀ v, v ∈ visits' ↔ v ∈ onward body more h ∨ v = .leave h ∨ v ∈ visits) ∧
        visits'.length = (onward body more h).length + visits.length + 1 := by
  have hwalk : walk body greedy stride (fuel + 1) seen (.enter more h :: visits) =
      walk body greedy stride fuel (mark stride more h :: seen)
        (if greedy = true then onward body more h ++ .leave h :: visits
          else .leave h :: (onward body more h ++ visits)) := by
    rw [walk, if_neg (by simpa using hnew)]
  refine ⟨_, hwalk, ?_⟩
  cases greedy with
  | true =>
      refine ⟨fun v => by simp, ?_⟩
      simp only [if_true, List.length_append, List.length_cons]
      omega
  | false => exact ⟨fun v => by simp [or_left_comm], by simp⟩

/-- A stage that is entered for the first time uses up a mark, which pays for its visits. -/
theorem Arena.fuel_enter (harena : Arena body R stride width marks allowed) {more : Option Nat} {h : Hit}
    {fuel : Nat} (hstage : allowed (more, h.cursor)) (hnew : mark stride more h ∉ seen)
    (hlength : visits'.length = (onward body more h).length + visits.length + 1)
    (hfuel : visits.length + 1 + (width + 1) * (marks.filter (· ∉ seen)).card ≤ fuel + 1) :
    visits'.length + (width + 1) * (marks.filter (· ∉ mark stride more h :: seen)).card ≤ fuel := by
  have hwidth : (onward body more h).length ≤ width := harena.length_onward hstage
  have hmarked : mark stride more h ∈ marks := harena.mem_marks hstage
  have hpaid := Nat.mul_le_mul_left (width + 1) (card_unseen_cons hmarked hnew)
  rw [Nat.mul_succ] at hpaid
  omega

/-- A walk with enough steps pays all that it owes. -/
theorem exists_settled (hbody : Finds body R) (harena : Arena body R stride width marks allowed)
    (greedy : Bool) (fuel : Nat) (seen : List Nat) (visits : List Visit)
    (hpending : Pending R stride allowed listed seen visits)
    (hallowed : ∀ more h, .enter more h ∈ visits → allowed (more, h.cursor))
    (hlisted : ∀ q ∈ walk body greedy stride fuel seen visits, listed q.cursor)
    (hfuel : visits.length + (width + 1) * (marks.filter (· ∉ seen)).card ≤ fuel) :
    ∃ settled, Pending R stride allowed listed settled [] ∧ (∀ m ∈ seen, m ∈ settled) ∧
      ∀ v ∈ visits, match v with
        | .enter more h => mark stride more h ∈ settled
        | .leave h => listed h.cursor := by
  -- Each step pays a visit; a stage that is entered for the first time sets a mark and owes new visits.
  induction fuel generalizing seen visits with
  | zero =>
      obtain rfl : visits = [] := List.eq_nil_of_length_eq_zero (by omega)
      exact ⟨seen, hpending, fun _ hm => hm, by simp⟩
  | succ fuel ih =>
      cases visits with
      | nil => exact ⟨seen, hpending, fun _ hm => hm, by simp⟩
      | cons v visits =>
          rw [List.length_cons] at hfuel
          have hrest : ∀ more h, .enter more h ∈ visits → allowed (more, h.cursor) :=
            fun more h hmem => hallowed more h (List.mem_cons_of_mem _ hmem)
          cases v with
          | leave h =>
              rw [walk] at hlisted
              have hhead : listed h.cursor := hlisted h List.mem_cons_self
              rcases ih seen visits (hpending.leave hhead) hrest
                (fun q hq => hlisted q (List.mem_cons_of_mem _ hq)) (by omega) with
                ⟨settled, hsettled, hseen, hpaid⟩
              exact ⟨settled, hsettled, hseen, List.forall_mem_cons.2 ⟨hhead, hpaid⟩⟩
          | enter more h =>
              have hstage : allowed (more, h.cursor) := hallowed more h List.mem_cons_self
              by_cases hmark : mark stride more h ∈ seen
              · rw [walk, if_pos (by simpa using hmark)] at hlisted
                rcases ih seen visits (hpending.skip hmark) hrest hlisted (by omega) with
                  ⟨settled, hsettled, hseen, hpaid⟩
                exact ⟨settled, hsettled, hseen, List.forall_mem_cons.2 ⟨hseen _ hmark, hpaid⟩⟩
              · rcases exists_walk_eq body hmark greedy fuel visits with
                  ⟨visits', hwalk, hmem, hlength⟩
                rw [hwalk] at hlisted
                rcases ih _ visits' (hpending.enter hbody harena hstage hmem)
                  (harena.allowed_of_enter hbody hstage hrest hmem) hlisted
                  (harena.fuel_enter hstage hmark hlength hfuel) with ⟨settled, hsettled, hseen, hpaid⟩
                refine ⟨settled, hsettled, fun m hm => hseen m (List.mem_cons_of_mem _ hm), ?_⟩
                refine List.forall_mem_cons.2 ⟨hseen _ List.mem_cons_self, ?_⟩
                exact fun v hv => hpaid v ((hmem v).2 (.inr (.inr hv)))

/-- From a stage that is settled a walk has listed every place that can be reached. -/
theorem Pending.listed_of_reach (harena : Arena body R stride width marks allowed)
    (hsettled : Pending R stride allowed listed seen []) {s t : Stage} (hs : allowed s)
    (hmark : s.mark stride ∈ seen) (hreach : Relation.ReflTransGen (Next R) s t) : listed t.2 := by
  have hboth : allowed t ∧ t.mark stride ∈ seen := by
    induction hreach with
    | refl => exact ⟨hs, hmark⟩
    | tail _ hnext ih =>
        refine ⟨harena.next ih.1 hnext, ?_⟩
        rcases hsettled.enters _ _ ih.1 ih.2 hnext with hmark | ⟨h, hmem, -⟩
        · exact hmark
        · cases hmem
  rcases hsettled.leaves t hboth.1 hboth.2 with hl | ⟨h, hmem, -⟩
  · exact hl
  · cases hmem

/-- A walk lists the hits that it is to list and every place that its visits lead to. -/
theorem endsAt_walk (hbody : Finds body R) (harena : Arena body R stride width marks allowed)
    (greedy : Bool) {fuel : Nat} {visits : List Visit}
    (hallowed : ∀ more h, .enter more h ∈ visits → allowed (more, h.cursor))
    (hfuel : visits.length + (width + 1) * marks.card ≤ fuel) :
    (∀ h, .leave h ∈ visits → EndsAt (walk body greedy stride fuel [] visits) h.cursor) ∧
      ∀ more h t, .enter more h ∈ visits → Relation.ReflTransGen (Next R) (more, h.cursor) t →
        EndsAt (walk body greedy stride fuel [] visits) t.2 := by
  have hstart : Pending R stride allowed (EndsAt (walk body greedy stride fuel [] visits)) [] visits :=
    ⟨by simp, by simp⟩
  rcases exists_settled hbody harena greedy fuel [] visits hstart hallowed
    (fun q hq => ⟨q, hq, rfl⟩) (by simpa using hfuel) with ⟨settled, hsettled, -, hpaid⟩
  refine ⟨fun h hmem => hpaid _ hmem, ?_⟩
  intro more h t hmem hreach
  exact hsettled.listed_of_reach harena (hallowed more h hmem) (hpaid _ hmem) hreach

/-! ## What a walk lists -/

/-- The place can be reached from the visit. -/
def Visit.Leads (R : Cursor → Cursor → Prop) (v : Visit) (q : Cursor) : Prop :=
  match v with
  | .enter more h => ∃ n, (∀ k ∈ more, n ≤ k) ∧ Times R n h.cursor q
  | .leave h => h.cursor = q

theorem Visit.leads_of_onward (hbody : Finds body R) {more : Option Nat} {h : Hit} {v : Visit}
    {q : Cursor} (hv : v ∈ onward body more h) (hq : v.Leads R q) : (Visit.enter more h).Leads R q := by
  rcases exists_of_mem_onward hv with ⟨more', h', rfl⟩
  rcases hq with ⟨n, hn, hq⟩
  have hnext : Next R (more, h.cursor) (more', h'.cursor) := (mem_onward_iff hbody).1 ⟨h', hv, rfl⟩
  cases hnext with
  | free hstep _ => exact ⟨n + 1, by simp, _, hstep, hq⟩
  | counted hstep =>
      have hle : n ≤ _ := hn _ rfl
      exact ⟨n + 1, by simpa using hle, _, hstep, hq⟩

/-- A walk lists nothing but what its visits lead to. -/
theorem exists_leads_of_mem_walk (hbody : Finds body R) (greedy : Bool) (fuel : Nat) (seen : List Nat)
    (visits : List Visit) {q : Hit} (hq : q ∈ walk body greedy stride fuel seen visits) :
    ∃ v ∈ visits, v.Leads R q.cursor := by
  -- By induction on the steps; marks do not matter, as they only leave visits out.
  induction fuel generalizing seen visits with
  | zero => simp [walk] at hq
  | succ fuel ih =>
      cases visits with
      | nil => simp [walk] at hq
      | cons v visits =>
          have hrest : (∃ v ∈ visits, v.Leads R q.cursor) →
              ∃ v' ∈ v :: visits, v'.Leads R q.cursor := by
            rintro ⟨v', hv', hleads⟩
            exact ⟨v', List.mem_cons_of_mem _ hv', hleads⟩
          cases v with
          | leave h =>
              rw [walk] at hq
              rcases List.mem_cons.1 hq with rfl | hq
              · exact ⟨_, List.mem_cons_self, rfl⟩
              · exact hrest (ih seen visits hq)
          | enter more h =>
              by_cases hmark : mark stride more h ∈ seen
              · rw [walk, if_pos (by simpa using hmark)] at hq
                exact hrest (ih seen visits hq)
              · rcases exists_walk_eq body hmark greedy fuel visits with
                  ⟨visits', hwalk, hmem, -⟩
                rw [hwalk] at hq
                rcases ih _ visits' hq with ⟨v, hv, hleads⟩
                rcases (hmem v).1 hv with hv | rfl | hv
                · exact ⟨_, List.mem_cons_self, Visit.leads_of_onward hbody hv hleads⟩
                · exact ⟨_, List.mem_cons_self, 0, by simp, hleads⟩
                · exact hrest ⟨v, hv, hleads⟩

theorem Finds.within_walk (hbody : Finds body R) {p : Cursor} (greedy : Bool) (fuel : Nat)
    (seen : List Nat) {visits : List Visit} (hvisits : ∀ v ∈ visits, p.Within v.hit.cursor) :
    ∀ q ∈ walk body greedy stride fuel seen visits, p.Within q.cursor :=
  walk_invariant (P := fun h => p.Within h.cursor) (fun h hh q hq => hh.trans (hbody.within h q hq))
    greedy stride fuel seen visits hvisits

/-- The steps that a repetition is given are enough for so many visits and marks. -/
theorem le_enough {bound count card : Nat} (h : Hit) (hcount : count ≤ h.cursor.rest.length + 1)
    (hcard : card ≤ (bound + 1) * (h.cursor.rest.length + 1)) :
    count + (h.cursor.rest.length + 1 + 1) * card ≤ enough bound h := by
  have hlt : (bound + 1) * (h.cursor.rest.length + 1) < (bound + 2) * (h.cursor.rest.length + 2) :=
    Nat.mul_lt_mul'' (Nat.lt_succ_self _) (Nat.lt_succ_self _)
  have hle := Nat.mul_le_mul_left (h.cursor.rest.length + 2) (Nat.succ_le_of_lt (hcard.trans_lt hlt))
  rw [Nat.mul_succ, Nat.mul_comm _ (_ * _)] at hle
  show count + (h.cursor.rest.length + 2) * card ≤ (bound + 2) * _ * _
  omega

end Repetition
end Pattern
end FormValidation
