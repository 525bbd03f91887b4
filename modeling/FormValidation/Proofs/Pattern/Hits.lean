import FormValidation.Pattern.Regex

/-!
# The ends of matches

The hits of an expression end in different places (`Regex.nodup_hits`).  So an expression behind one with
a single hit has the hits that it has there (`Regex.hits_seq_of_eq_singleton`), and in front of one that
matches everywhere only the preferred hit counts (`Regex.head?_hits_seq`).

* `Regex.hits_preserve` — what the steps of a match preserve holds of its hits;
* `Regex.head?_hits_optional` — the preferred hit of an expression that may be left out;
* `Regex.find?_of_anchored` — the match of an expression that matches only at the beginning of a text.
-/

namespace FormValidation
namespace Pattern

/-! ## Hits that end in different places -/

namespace Hit

theorem nodup_firsts (seen : List Nat) (hs : List Hit) :
    ((firsts seen hs).map (·.cursor.offset)).Nodup ∧
      ∀ h ∈ firsts seen hs, h.cursor.offset ∉ seen := by
  induction hs generalizing seen with
  | nil => simp [firsts]
  | cons h hs ih =>
      by_cases hseen : h.cursor.offset ∈ seen
      · simpa [firsts, hseen] using ih seen
      · rcases ih (h.cursor.offset :: seen) with ⟨hnodup, hnew⟩
        -- From here on the place of the first hit counts as seen.
        have hhead : h.cursor.offset ∉ (firsts (h.cursor.offset :: seen) hs).map (·.cursor.offset) := by
          intro hmem
          rcases List.mem_map.1 hmem with ⟨q, hq, heq⟩
          exact hnew q hq (by simp [heq])
        rw [firsts, if_neg (by simpa using hseen)]
        refine ⟨List.nodup_cons.2 ⟨hhead, hnodup⟩, ?_⟩
        intro q hq
        rcases List.mem_cons.1 hq with rfl | hq
        · exact hseen
        · intro hmem
          exact hnew q hq (List.mem_cons_of_mem _ hmem)

theorem firsts_eq_self {seen : List Nat} {hs : List Hit}
    (hnodup : (hs.map (·.cursor.offset)).Nodup) (hseen : ∀ h ∈ hs, h.cursor.offset ∉ seen) :
    firsts seen hs = hs := by
  induction hs generalizing seen with
  | nil => rfl
  | cons h hs ih =>
      rcases List.nodup_cons.1 hnodup with ⟨hhead, hnodup⟩
      have hrest : firsts (h.cursor.offset :: seen) hs = hs := by
        apply ih hnodup
        intro q hq hmem
        rcases List.mem_cons.1 hmem with heq | hmem
        · exact hhead (List.mem_map.2 ⟨q, hq, heq⟩)
        · exact hseen q (List.mem_cons_of_mem _ hq) hmem
      have hnew : h.cursor.offset ∉ seen := hseen h List.mem_cons_self
      rw [firsts, if_neg (by simpa using hnew), hrest]

theorem head?_firsts (hs : List Hit) : (firsts [] hs).head? = hs.head? := by
  cases hs <;> simp [firsts]

theorem mem_of_mem_firsts {seen : List Nat} {hs : List Hit} {h : Hit} (hmem : h ∈ firsts seen hs) :
    h ∈ hs := by
  induction hs generalizing seen with
  | nil => simp [firsts] at hmem
  | cons h' hs ih =>
      rw [firsts] at hmem
      split at hmem
      · exact List.mem_cons_of_mem _ (ih hmem)
      · rcases List.mem_cons.1 hmem with rfl | hmem
        · exact List.mem_cons_self
        · exact List.mem_cons_of_mem _ (ih hmem)

/-- The hit together with what a group matched that began at `p`. -/
def closing (i : Nat) (p q : Hit) : Hit :=
  { q with captures := (i, ⟨p.cursor, q.cursor⟩) :: q.captures }

end Hit

/-! ## Hits stay in the text -/

namespace Repetition

variable {body : Hit → List Hit} {P : Hit → Prop}

/-- The hit of a visit. -/
def Visit.hit : Visit → Hit
  | .enter _ h => h
  | .leave h => h

theorem mem_onward {more : Option Nat} {h : Hit} {v : Visit} (hv : v ∈ onward body more h) :
    v.hit ∈ body h := by
  unfold onward at hv
  split at hv
  · rcases List.mem_map.1 hv with ⟨q, hq, rfl⟩
    exact (List.mem_filter.1 hq).1
  · simp at hv
  · rcases List.mem_map.1 hv with ⟨q, hq, rfl⟩
    exact hq

/-- What the body preserves holds of all that a walk lists. -/
theorem walk_invariant (hbody : ∀ h, P h → ∀ q ∈ body h, P q) (greedy : Bool) (stride fuel : Nat)
    (seen : List Nat) (visits : List Visit) (hvisits : ∀ v ∈ visits, P v.hit) :
    ∀ q ∈ walk body greedy stride fuel seen visits, P q := by
  -- The visits that are still to be paid carry the invariant along.
  induction fuel generalizing seen visits with
  | zero => simp [walk]
  | succ fuel ih =>
      rcases visits with _ | ⟨v, visits⟩
      · simp [walk]
      · have hrest : ∀ v ∈ visits, P v.hit := fun v hv => hvisits v (List.mem_cons_of_mem _ hv)
        have hhead := hvisits v List.mem_cons_self
        cases v with
        | leave h =>
            intro q hq
            rcases List.mem_cons.1 hq with rfl | hq
            · exact hhead
            · exact ih seen visits hrest q hq
        | enter more h =>
            rw [walk]
            split
            · exact ih seen visits hrest
            · apply ih
              intro v hv
              have hcases : v ∈ onward body more h ∨ v = .leave h ∨ v ∈ visits := by
                cases greedy <;> simp at hv <;> grind
              rcases hcases with hv | rfl | hv
              · exact hbody h hhead _ (mem_onward hv)
              · exact hhead
              · exact hrest v hv

theorem copies_invariant (hbody : ∀ h, P h → ∀ q ∈ body h, P q) (n : Nat) (hs : List Hit)
    (hhs : ∀ h ∈ hs, P h) : ∀ q ∈ copies body n hs, P q := by
  induction n generalizing hs with
  | zero => exact hhs
  | succ n ih =>
      apply ih
      intro q hq
      rcases List.mem_flatMap.1 (Hit.mem_of_mem_firsts hq) with ⟨h, hh, hq⟩
      exact hbody h (hhs h hh) q hq

theorem upTo_invariant (hbody : ∀ h, P h → ∀ q ∈ body h, P q) (greedy : Bool) (bound : Nat)
    (h : Hit) (hh : P h) : ∀ q ∈ upTo body greedy bound h, P q := fun q hq =>
  walk_invariant hbody greedy _ _ _ _ (by simpa [Visit.hit] using hh) q (Hit.mem_of_mem_firsts hq)

theorem plus_invariant (hbody : ∀ h, P h → ∀ q ∈ body h, P q) (greedy : Bool) (h : Hit)
    (hh : P h) : ∀ q ∈ plus body greedy h, P q := by
  intro q hq
  refine walk_invariant hbody greedy _ _ _ _ ?_ q (Hit.mem_of_mem_firsts hq)
  intro v hv
  rcases List.mem_map.1 hv with ⟨q', hq', rfl⟩
  have hP := hbody h hh q' hq'
  split <;> exact hP

/-- What the body preserves holds of all hits of a repetition. -/
theorem hits_invariant (hbody : ∀ h, P h → ∀ q ∈ body h, P q) (min : Nat) (max : Option Nat)
    (greedy : Bool) (h : Hit) (hh : P h) : ∀ q ∈ hits body min max greedy h, P q := by
  have hcopies : ∀ n, ∀ q ∈ copies body n [h], P q := fun n =>
    copies_invariant hbody n [h] (by simpa using hh)
  intro q hq
  unfold hits at hq
  split at hq
  · -- As many matches as there have to be, and then up to so many more.
    rcases List.mem_flatMap.1 (Hit.mem_of_mem_firsts hq) with ⟨h', hh', hq⟩
    exact upTo_invariant hbody greedy _ h' (hcopies _ h' hh') q hq
  · split at hq
    · -- Any number of matches, or none.
      have hmem : q ∈ plus body greedy h ∨ q = h := by
        have hmem := Hit.mem_of_mem_firsts hq
        cases greedy <;> simp at hmem <;> grind
      rcases hmem with hq | rfl
      · exact plus_invariant hbody greedy h hh q hq
      · exact hh
    · rcases List.mem_flatMap.1 (Hit.mem_of_mem_firsts hq) with ⟨h', hh', hq⟩
      exact plus_invariant hbody greedy h' (hcopies _ h' hh') q hq

end Repetition

namespace Regex

variable {r s : Regex} {p q : Hit}

/-- No two hits of an expression end in the same place. -/
theorem nodup_hits (r : Regex) (p : Hit) : ((r.hits p).map (·.cursor.offset)).Nodup := by
  induction r generalizing p with
  | empty => simp [hits]
  | char set =>
      rw [hits]
      cases p.cursor.next? with
      | none => simp
      | some c => by_cases h : set.contains c.1.toNat = true <;> simp [h]
  | assertion a => by_cases h : a.holds p.cursor = true <;> simp [hits, h]
  | seq r s => exact (Hit.nodup_firsts _ _).1
  | alt r s => exact (Hit.nodup_firsts _ _).1
  | group i r ih => simpa [hits, List.map_map, Function.comp_def] using ih p
  | rep r min max greedy =>
      rw [hits, Repetition.hits.eq_def]
      cases max with
      | some m => exact (Hit.nodup_firsts _ _).1
      | none => cases min <;> exact (Hit.nodup_firsts _ _).1

theorem firsts_hits (r : Regex) (p : Hit) : Hit.firsts [] (r.hits p) = r.hits p :=
  Hit.firsts_eq_self (r.nodup_hits p) (by simp)

/-- What going over a character and closing a group preserve holds of all hits. -/
theorem hits_preserve {P : Hit → Prop}
    (hchar : ∀ p c next, P p → p.cursor.next? = some (c, next) → P { p with cursor := next })
    (hgroup : ∀ i p q, P p → P q → P (Hit.closing i p q)) (r : Regex) :
    ∀ p, P p → ∀ q ∈ r.hits p, P q := by
  induction r with
  | empty =>
      intro p hp q hq
      rwa [List.mem_singleton.1 hq]
  | char set =>
      intro p hp q hq
      rw [hits] at hq
      cases hc : p.cursor.next? with
      | none => simp [hc] at hq
      | some c =>
          simp only [hc] at hq
          split at hq
          · rw [List.mem_singleton.1 hq]
            exact hchar p _ _ hp hc
          · simp at hq
  | assertion a =>
      intro p hp q hq
      rw [hits] at hq
      split at hq
      · rwa [List.mem_singleton.1 hq]
      · simp at hq
  | seq r s ihr ihs =>
      intro p hp q hq
      rcases List.mem_flatMap.1 (Hit.mem_of_mem_firsts hq) with ⟨p', hp', hq⟩
      exact ihs p' (ihr p hp p' hp') q hq
  | alt r s ihr ihs =>
      intro p hp q hq
      rcases List.mem_append.1 (Hit.mem_of_mem_firsts hq) with hq | hq
      · exact ihr p hp q hq
      · exact ihs p hp q hq
  | group i r ih =>
      intro p hp q hq
      rcases List.mem_map.1 hq with ⟨q', hq', rfl⟩
      exact hgroup i p q' hp (ih p hp q' hq')
  | rep r min max greedy ih => exact Repetition.hits_invariant ih min max greedy

/-- What is preserved from one place of a text to the next one holds where a match ends. -/
theorem hits_invariant {P : Cursor → Prop} (hnext : ∀ p c q, P p → p.next? = some (c, q) → P q)
    (r : Regex) : ∀ p : Hit, P p.cursor → ∀ q ∈ r.hits p, P q.cursor :=
  r.hits_preserve (P := fun h => P h.cursor) (fun p => hnext p.cursor) fun _ _ _ _ hq => hq

/-- In an empty text there is nothing for the groups to match but the empty text. -/
theorem text?_of_find?_nil (r : Regex) {h : Hit} (hfind : r.find? [] = some h) {group : Nat}
    {text : List Char} (htext : h.captures.text? group = some text) : text = [] := by
  -- No character is gone over, so every place is the end of the text, also those where groups begin.
  let Empty : Hit → Prop := fun h => h.cursor.rest = [] ∧ ∀ c ∈ h.captures, c.2.start.rest = []
  have hchar : ∀ p c next, Empty p → p.cursor.next? = some (c, next) → Empty { p with cursor := next } := by
    intro p c next hp hc
    simp [Cursor.next?, hp.1] at hc
  have hgroup : ∀ i p q, Empty p → Empty q → Empty (Hit.closing i p q) := by
    intro i p q hp hq
    exact ⟨hq.1, List.forall_mem_cons.2 ⟨hp.1, hq.2⟩⟩
  have hmem : h ∈ r.hits ⟨.start [], []⟩ := List.mem_of_mem_head? hfind
  have hempty : Empty h := r.hits_preserve hchar hgroup _ ⟨rfl, List.forall_mem_nil _⟩ h hmem
  rcases Option.map_eq_some_iff.1 htext with ⟨c, hc, rfl⟩
  rcases List.lookup_eq_some_iff.1 hc with ⟨before, after, hcaptures, -⟩
  have hrest : c.start.rest = [] := hempty.2 (group, c) (by simp [hcaptures])
  rw [Capture.text, hrest, List.take_nil]

/-- A match ends in the text in which it starts. -/
theorem offset_add_length_of_mem_hits (r : Regex) {p q : Hit} (h : q ∈ r.hits p) :
    q.cursor.offset + q.cursor.rest.length = p.cursor.offset + p.cursor.rest.length := by
  refine r.hits_invariant (P := fun c => c.offset + c.rest.length =
    p.cursor.offset + p.cursor.rest.length) ?_ p rfl q h
  rintro ⟨offset, before, _ | ⟨c, cs⟩⟩ c' q hp hq
  · simp [Cursor.next?] at hq
  · obtain ⟨rfl, rfl⟩ : c = c' ∧ _ = q := by simpa [Cursor.next?] using hq
    simp at hp ⊢
    omega

/-! ## Sequences -/

/-- Behind an expression with a single hit the hits are those from there on. -/
theorem hits_seq_of_eq_singleton (h : r.hits p = [q]) : (r.seq s).hits p = s.hits q := by
  rw [hits, h, List.flatMap_singleton, firsts_hits]

theorem hits_seq_of_eq_nil (h : r.hits p = []) : (r.seq s).hits p = [] := by
  rw [hits, h]
  rfl

theorem hits_seq_congr {r' : Regex} (h : r.hits p = r'.hits q) :
    (r.seq s).hits p = (r'.seq s).hits q := by
  rw [hits, hits, h]

/-- A sequence goes on in the same way from the same hits. -/
theorem hits_foldl_seq_congr {r' : Regex} (h : r.hits p = r'.hits q) (rs : List Regex) :
    (rs.foldl .seq r).hits p = (rs.foldl .seq r').hits q := by
  induction rs generalizing r r' with
  | nil => exact h
  | cons s rs ih => exact ih (hits_seq_congr h)

theorem hits_foldl_seq_of_eq_singleton (h : r.hits p = [q]) (s : Regex) (rs : List Regex) :
    ((s :: rs).foldl .seq r).hits p = (concat (s :: rs)).hits q :=
  hits_foldl_seq_congr (hits_seq_of_eq_singleton h) rs

theorem hits_foldl_seq_of_eq_nil (h : r.hits p = []) (rs : List Regex) :
    (rs.foldl .seq r).hits p = [] := by
  induction rs generalizing r with
  | nil => exact h
  | cons s rs ih => exact ih (hits_seq_of_eq_nil h)

/-- In front of an expression that matches the preferred hit decides. -/
theorem head?_hits_seq (h : (r.hits p).head? = some q) (hs : s.hits q ≠ []) :
    ((r.seq s).hits p).head? = (s.hits q).head? := by
  obtain ⟨tail, htail⟩ : ∃ tail, r.hits p = q :: tail := List.head?_eq_some_iff.1 h
  rcases List.exists_cons_of_ne_nil hs with ⟨first, rest, hfirst⟩
  rw [hits, Hit.head?_firsts, htail, List.flatMap_cons, hfirst]
  rfl

/-! ## Groups and options -/

theorem hits_group (i : Nat) (r : Regex) (p : Hit) :
    (Regex.group i r).hits p = (r.hits p).map (Hit.closing i p) :=
  rfl

/-- The preferred hit of an expression that may be left out is that of the expression, if it matches. -/
theorem head?_hits_optional (r : Regex) (p : Hit) :
    ((Regex.rep r 0 (some 1) true).hits p).head? = some ((r.hits p).head?.getD p) := by
  -- Three steps of the walk show the preferred hit.
  obtain ⟨fuel, hfuel⟩ : ∃ fuel, Repetition.enough 1 p = fuel + 3 := by
    refine ⟨Repetition.enough 1 p - 3, (Nat.sub_add_cancel ?_).symm⟩
    rw [Repetition.enough, Nat.mul_assoc]
    exact Nat.le_mul_of_pos_right _ (Nat.mul_pos (Nat.succ_pos _) (Nat.succ_pos _))
  have hwalk : (Repetition.hits r.hits 0 (some 1) true p).head? =
      (Repetition.walk r.hits true (p.cursor.offset + p.cursor.rest.length + 1) (fuel + 3) []
        [.enter (some 1) p]).head? := by
    simp [Repetition.hits, Repetition.copies, Repetition.upTo, Hit.head?_firsts, hfuel]
  rw [hits, hwalk]
  cases hr : r.hits p with
  | nil => simp [Repetition.walk, Repetition.onward, hr]
  | cons q qs =>
      -- The place where a match ends is none of those at which one more match was allowed.
      have hmark : q.cursor.offset ≠ p.cursor.offset + p.cursor.rest.length + 1 + p.cursor.offset := by
        have hlength := offset_add_length_of_mem_hits r (hr ▸ List.mem_cons_self : q ∈ r.hits p)
        omega
      simp [Repetition.walk, Repetition.onward, Repetition.mark, hr, hmark]

theorem hits_optional_ne_nil (r : Regex) (p : Hit) :
    (Regex.rep r 0 (some 1) true).hits p ≠ [] := by
  intro h
  have hhead := head?_hits_optional r p
  simp [h] at hhead

/-! ## Anchored expressions -/

theorem findFrom_of_anchored (h : ∀ p : Hit, p.cursor.before.isSome → r.hits p = [])
    (offset : Nat) (c : Char) (cs : List Char) : r.findFrom offset (some c) cs = none := by
  induction cs generalizing offset c with
  | nil => simp [findFrom, h]
  | cons c' cs ih => simp [findFrom, h, ih]

/-- An expression that matches only at the beginning of a text is looked for only there. -/
theorem find?_of_anchored (h : ∀ p : Hit, p.cursor.before.isSome → r.hits p = []) (cs : List Char) :
    r.find? cs = (r.hits ⟨.start cs, []⟩).head? := by
  cases cs with
  | nil => rfl
  | cons c cs =>
      rw [find?, findFrom, findFrom_of_anchored h]
      cases hhead : (r.hits ⟨.start (c :: cs), []⟩).head? <;> simp_all [Cursor.start]

/-- A sequence that asks for the beginning of a text matches where the rest of it matches there. -/
theorem find?_textStart (s : Regex) (rs : List Regex) (cs : List Char) :
    (concat (.assertion .textStart :: s :: rs)).find? cs = ((concat (s :: rs)).hits ⟨.start cs, []⟩).head? := by
  have hanchored : ∀ p : Hit, p.cursor.before.isSome →
      (concat (.assertion .textStart :: s :: rs)).hits p = [] := by
    intro p hp
    have hassertion : (Regex.assertion .textStart).hits p = [] := by
      rw [hits, if_neg]
      simpa [Assertion.holds, Option.isNone_iff_eq_none, Option.isSome_iff_ne_none] using hp
    exact hits_foldl_seq_of_eq_nil hassertion _
  have hstart : (Regex.assertion .textStart).hits ⟨.start cs, []⟩ = [⟨.start cs, []⟩] := rfl
  rw [find?_of_anchored hanchored]
  exact congrArg List.head? (hits_foldl_seq_of_eq_singleton hstart s rs)

end Regex
end Pattern
end FormValidation
