import Mathlib.Computability.Language
import Mathlib.Algebra.BigOperators.Group.List.Basic
import FormValidation.Proofs.Pattern.Repetition

/-!
# What expressions match

`Regex.Spans` says between which places of a text an expression matches, without saying which match is
preferred.  Matching finds exactly these places (`Regex.finds_hits`), so a text has a match if and only if
the expression spans some stretch of it (`Regex.isMatch_iff`).

An expression without conditions on places matches the words of a language wherever they stand
(`Regex.crosses_language`).  Between the beginning and the end of the text it asks whether the whole
text is a word (`Regex.isMatch_whole`).
-/

namespace FormValidation
namespace Pattern

open Hit (EndsAt)

/-! ## Matches between places -/

namespace Regex

/-- The expression matches the text between two places. -/
def Spans : Regex → Cursor → Cursor → Prop
  | .empty, p, q => p = q
  | .char set, p, q => ∃ c, p.next? = some (c, q) ∧ set.has c = true
  | .assertion a, p, q => a.holds p = true ∧ p = q
  | .seq r s, p, q => ∃ m, r.Spans p m ∧ s.Spans m q
  | .alt r s, p, q => r.Spans p q ∨ s.Spans p q
  | .group _ r, p, q => r.Spans p q
  | .rep r min max _, p, q =>
      ∃ n, (∀ m ∈ max, n ≤ m - min) ∧ Repetition.Times r.Spans (min + n) p q

theorem endsAt_hits_char (set : CharClass) (h : Hit) (q : Cursor) :
    EndsAt ((Regex.char set).hits h) q ↔ (Regex.char set).Spans h.cursor q := by
  rw [hits, Spans]
  cases hnext : h.cursor.next? with
  | none => simp [EndsAt]
  | some next =>
      rcases next with ⟨c, p⟩
      by_cases hc : set.contains c.toNat = true
      · simp [EndsAt, CharClass.has, hc]
      · simp [EndsAt, CharClass.has, hc]

/-- Matching finds exactly the places up to which the expression matches. -/
theorem finds_hits (r : Regex) : Repetition.Finds r.hits r.Spans where
  within := r.within_hits
  nodup := r.nodup_hits
  ends := by
    -- By induction on the expression.  Leaving out repeated hits loses no place, since all are in one text.
    induction r with
    | empty => exact fun h q => Hit.endsAt_singleton
    | char set => exact endsAt_hits_char set
    | assertion a =>
        intro h q
        by_cases ha : a.holds h.cursor = true <;> simp [hits, Spans, EndsAt, ha]
    | seq r s ihr ihs =>
        intro h q
        refine Hit.endsAt_firsts_flatMap (p := h.cursor) (ihr h) ihs ?_
        intro m q hm hq
        rcases (ihr h m).2 hm with ⟨x, hx, rfl⟩
        rcases (ihs x q).2 hq with ⟨y, hy, rfl⟩
        exact (r.within_hits h x hx).trans (s.within_hits x y hy)
    | alt r s ihr ihs =>
        intro h q
        have hwithin : ∀ q ∈ r.hits h ++ s.hits h, h.cursor.Within q.cursor := by
          intro q hq
          rcases List.mem_append.1 hq with hq | hq
          · exact r.within_hits h q hq
          · exact s.within_hits h q hq
        rw [hits, Hit.endsAt_firsts hwithin, Hit.endsAt_append, ihr, ihs, Spans]
    | group i r ih =>
        intro h q
        rw [Spans, ← ih h q]
        simp [hits, EndsAt]
    | rep r min max greedy ih =>
        have hbody : Repetition.Finds r.hits r.Spans :=
          { ends := ih, within := r.within_hits, nodup := r.nodup_hits }
        exact fun h q => Repetition.endsAt_hits hbody min max greedy h q

/-- A match begins at a place if the expression spans something from there. -/
theorem isSome_head?_hits_iff (r : Regex) (h : Hit) :
    (r.hits h).head?.isSome = true ↔ ∃ q, r.Spans h.cursor q := by
  rw [List.isSome_head?]
  constructor
  · intro hne
    rcases List.exists_mem_of_ne_nil _ hne with ⟨q, hq⟩
    exact ⟨q.cursor, (r.finds_hits.ends h _).1 ⟨q, hq, rfl⟩⟩
  · rintro ⟨q, hq⟩
    rcases (r.finds_hits.ends h q).2 hq with ⟨h', hmem, -⟩
    exact List.ne_nil_of_mem hmem

theorem isSome_findFrom_iff (r : Regex) (offset : Nat) (before : Option Char) (cs : List Char) :
    (r.findFrom offset before cs).isSome = true ↔
      ∃ p q, Cursor.Within ⟨offset, before, cs⟩ p ∧ r.Spans p q := by
  induction cs generalizing offset before with
  | nil =>
      rw [findFrom, isSome_head?_hits_iff]
      constructor
      · rintro ⟨q, hq⟩
        exact ⟨_, q, .refl _, hq⟩
      · rintro ⟨p, q, ⟨n, hn, rfl⟩, hq⟩
        obtain rfl : n = 0 := by simpa using hn
        exact ⟨q, hq⟩
  | cons c cs ih =>
      -- A match begins here or behind the next character.
      have hhere := isSome_head?_hits_iff r ⟨⟨offset, before, c :: cs⟩, []⟩
      have hsplit : (r.findFrom offset before (c :: cs)).isSome = true ↔
          (r.hits ⟨⟨offset, before, c :: cs⟩, []⟩).head?.isSome = true ∨
            (r.findFrom (offset + 1) (some c) cs).isSome = true := by
        rw [findFrom]
        cases (r.hits ⟨⟨offset, before, c :: cs⟩, []⟩).head? <;> simp
      rw [hsplit, hhere, ih]
      constructor
      · rintro (⟨q, hq⟩ | ⟨p, q, ⟨n, hn, rfl⟩, hq⟩)
        · exact ⟨_, q, .refl _, hq⟩
        · exact ⟨_, q, ⟨n + 1, Nat.succ_le_succ hn, rfl⟩, hq⟩
      · rintro ⟨p, q, ⟨_ | n, hn, rfl⟩, hq⟩
        · exact .inl ⟨q, hq⟩
        · exact .inr ⟨_, q, ⟨n, Nat.le_of_succ_le_succ hn, rfl⟩, hq⟩

/-- A text has a match if and only if the expression spans some stretch of it. -/
theorem isMatch_iff (r : Regex) (cs : List Char) :
    r.isMatch cs = true ↔ ∃ p q, (Cursor.start cs).Within p ∧ r.Spans p q :=
  r.isSome_findFrom_iff 0 none cs

/-! ## Sequences -/

/-- The expressions match the text between two places one after the other. -/
def SpansAll : List Regex → Cursor → Cursor → Prop
  | [], p, q => p = q
  | r :: rs, p, q => ∃ m, r.Spans p m ∧ SpansAll rs m q

theorem spans_foldl_seq (r : Regex) (rs : List Regex) (p q : Cursor) :
    (rs.foldl .seq r).Spans p q ↔ ∃ m, r.Spans p m ∧ SpansAll rs m q := by
  induction rs generalizing r with
  | nil => simp [SpansAll]
  | cons s rs ih =>
      rw [List.foldl_cons, ih]
      constructor
      · rintro ⟨x, ⟨m, hm, hx⟩, hq⟩
        exact ⟨m, hm, x, hx, hq⟩
      · rintro ⟨m, hm, x, hx, hq⟩
        exact ⟨x, ⟨m, hm, hx⟩, hq⟩

theorem spans_concat (rs : List Regex) (p q : Cursor) :
    (concat rs).Spans p q ↔ SpansAll rs p q := by
  cases rs with
  | nil => rfl
  | cons r rs => exact spans_foldl_seq r rs p q

theorem spansAll_append (rs ss : List Regex) (p q : Cursor) :
    SpansAll (rs ++ ss) p q ↔ ∃ m, SpansAll rs p m ∧ SpansAll ss m q := by
  induction rs generalizing p with
  | nil => simp [SpansAll]
  | cons r rs ih =>
      simp only [List.cons_append, SpansAll, ih]
      constructor
      · rintro ⟨x, hx, m, hm, hq⟩
        exact ⟨m, ⟨x, hx, hm⟩, hq⟩
      · rintro ⟨m, ⟨x, hx, hm⟩, hq⟩
        exact ⟨x, hx, m, hm, hq⟩

end Regex

/-! ## Words between places -/

namespace Cursor

/-- The word is the text between two places. -/
def Reads (p : Cursor) (w : List Char) (q : Cursor) : Prop :=
  p.rest = w ++ q.rest ∧ q = p.advance w.length

variable {p q : Cursor}

theorem reads_nil : p.Reads [] q ↔ p = q := by
  constructor
  · rintro ⟨-, rfl⟩
    rfl
  · rintro rfl
    exact ⟨rfl, rfl⟩

theorem reads_append {u v : List Char} : p.Reads (u ++ v) q ↔ ∃ m, p.Reads u m ∧ m.Reads v q := by
  constructor
  · rintro ⟨hrest, rfl⟩
    have hmiddle : (p.advance u.length).rest = v ++ (p.advance (u ++ v).length).rest := by
      rw [rest_advance, hrest, List.append_assoc, List.drop_left]
    refine ⟨p.advance u.length, ⟨?_, rfl⟩, hmiddle, ?_⟩
    · rw [hmiddle, ← List.append_assoc]
      exact hrest
    · rw [advance_advance, List.length_append]
  · rintro ⟨m, ⟨hu, rfl⟩, hv, rfl⟩
    refine ⟨?_, ?_⟩
    · rw [hu, hv, List.append_assoc]
    · rw [advance_advance, List.length_append]

theorem reads_singleton {c : Char} : p.Reads [c] q ↔ p.next? = some (c, q) := by
  rcases p with ⟨offset, before, _ | ⟨c', cs⟩⟩
  · simp [Reads, next?]
  · constructor
    · rintro ⟨hrest, rfl⟩
      obtain rfl : c' = c := by simpa using congrArg List.head? hrest
      rfl
    · intro hnext
      obtain ⟨rfl, rfl⟩ : c' = c ∧ _ = q := by simpa [next?] using hnext
      exact ⟨rfl, rfl⟩

end Cursor

/-! ## Languages -/

namespace Regex

/-- Whether the expression asks nothing about the places that it passes. -/
def isPlain : Regex → Bool
  | .empty | .char _ => true
  | .assertion _ => false
  | .seq r s | .alt r s => r.isPlain && s.isPlain
  | .group _ r | .rep r _ _ _ => r.isPlain

/-- The words that the expression matches, conditions on places aside. -/
def language : Regex → Language Char
  | .empty | .assertion _ => 1
  | .char set => {w | ∃ c, w = [c] ∧ set.has c = true}
  | .seq r s => r.language * s.language
  | .alt r s => r.language + s.language
  | .group _ r => r.language
  | .rep r min max _ => {w | ∃ n, (∀ m ∈ max, n ≤ m - min) ∧ w ∈ r.language ^ (min + n)}

/-- The relation leads from place to place across the words of the language. -/
def Crosses (R : Cursor → Cursor → Prop) (L : Language Char) : Prop :=
  ∀ p q, R p q ↔ ∃ w ∈ L, p.Reads w q

theorem Crosses.eq : Crosses (fun p q => p = q) 1 := by
  intro p q
  simp [Language.mem_one, Cursor.reads_nil]

/-- Relations after each other cross a word of the one language and then a word of the other. -/
theorem Crosses.comp {R S : Cursor → Cursor → Prop} {L M : Language Char} (hR : Crosses R L)
    (hS : Crosses S M) : Crosses (fun p q => ∃ m, R p m ∧ S m q) (L * M) := by
  intro p q
  constructor
  · rintro ⟨m, hm, hq⟩
    rcases (hR p m).1 hm with ⟨u, hu, hpm⟩
    rcases (hS m q).1 hq with ⟨v, hv, hmq⟩
    exact ⟨u ++ v, Language.append_mem_mul hu hv, Cursor.reads_append.2 ⟨m, hpm, hmq⟩⟩
  · rintro ⟨w, hw, hpq⟩
    rcases Language.mem_mul.1 hw with ⟨u, hu, v, hv, rfl⟩
    rcases Cursor.reads_append.1 hpq with ⟨m, hpm, hmq⟩
    exact ⟨m, (hR p m).2 ⟨u, hu, hpm⟩, (hS m q).2 ⟨v, hv, hmq⟩⟩

theorem Crosses.times {R : Cursor → Cursor → Prop} {L : Language Char} (h : Crosses R L) (n : Nat) :
    Crosses (Repetition.Times R n) (L ^ n) := by
  induction n with
  | zero => exact Crosses.eq
  | succ n ih =>
      rw [pow_succ']
      exact h.comp ih

/-- A plain expression matches the words of its language wherever they stand. -/
theorem crosses_language {r : Regex} (hr : r.isPlain = true) : Crosses r.Spans r.language := by
  induction r with
  | empty => exact Crosses.eq
  | char set =>
      intro p q
      rw [Spans, language]
      constructor
      · rintro ⟨c, hnext, hc⟩
        exact ⟨[c], ⟨c, rfl, hc⟩, Cursor.reads_singleton.2 hnext⟩
      · rintro ⟨w, ⟨c, rfl, hc⟩, hreads⟩
        exact ⟨c, Cursor.reads_singleton.1 hreads, hc⟩
  | assertion a => cases hr
  | seq r s ihr ihs =>
      rw [isPlain, Bool.and_eq_true] at hr
      exact (ihr hr.1).comp (ihs hr.2)
  | alt r s ihr ihs =>
      intro p q
      rw [isPlain, Bool.and_eq_true] at hr
      simp only [Spans, language, Language.mem_add, ihr hr.1 p q, ihs hr.2 p q, or_and_right, exists_or]
  | group i r ih => exact ih hr
  | rep r min max greedy ih =>
      intro p q
      have htimes := (ih hr).times
      constructor
      · rintro ⟨n, hn, hq⟩
        rcases (htimes _ p q).1 hq with ⟨w, hw, hreads⟩
        exact ⟨w, ⟨n, hn, hw⟩, hreads⟩
      · rintro ⟨w, ⟨n, hn, hw⟩, hreads⟩
        exact ⟨n, hn, (htimes _ p q).2 ⟨w, hw, hreads⟩⟩

theorem crosses_prod {rs : List Regex} (hrs : ∀ r ∈ rs, r.isPlain = true) :
    Crosses (SpansAll rs) (rs.map language).prod := by
  induction rs with
  | nil => exact Crosses.eq
  | cons r rs ih =>
      rw [List.map_cons, List.prod_cons]
      exact (crosses_language (hrs r List.mem_cons_self)).comp
        (ih fun s hs => hrs s (List.mem_cons_of_mem _ hs))

/-! ## Words of common expressions -/

theorem language_foldl_seq (r : Regex) (rs : List Regex) :
    (rs.foldl .seq r).language = r.language * (rs.map language).prod := by
  induction rs generalizing r with
  | nil => simp
  | cons s rs ih => rw [List.foldl_cons, ih, language, List.map_cons, List.prod_cons, mul_assoc]

theorem language_concat (rs : List Regex) : (concat rs).language = (rs.map language).prod := by
  cases rs with
  | nil => rfl
  | cons r rs => exact language_foldl_seq r rs

theorem mem_language_rep_none {r : Regex} {min : Nat} {greedy : Bool} {w : List Char} :
    w ∈ (Regex.rep r min none greedy).language ↔ ∃ n, w ∈ r.language ^ (min + n) := by
  change (∃ n, (∀ m ∈ none, n ≤ m - min) ∧ w ∈ r.language ^ (min + n)) ↔ _
  simp

theorem mem_language_optional {r : Regex} {greedy : Bool} {w : List Char} :
    w ∈ (Regex.rep r 0 (some 1) greedy).language ↔ w = [] ∨ w ∈ r.language := by
  change (∃ n, (∀ m ∈ some 1, n ≤ m - 0) ∧ w ∈ r.language ^ (0 + n)) ↔ _
  constructor
  · rintro ⟨_ | _ | n, hn, hw⟩
    · exact .inl (Language.mem_one _ |>.1 (by simpa using hw))
    · exact .inr (by simpa using hw)
    · exact absurd (hn 1 rfl) (by omega)
  · rintro (rfl | hw)
    · exact ⟨0, by simp, by simp [Language.mem_one]⟩
    · exact ⟨1, by simp, by simpa using hw⟩

theorem mem_language_char {set : CharClass} {w : List Char} :
    w ∈ (Regex.char set).language ↔ ∃ c, w = [c] ∧ set.has c = true :=
  Iff.rfl

theorem mem_language_single {c : Char} {w : List Char} :
    w ∈ (Regex.char (.single c)).language ↔ w = [c] := by
  simp only [mem_language_char, CharClass.has_single, exists_eq_right]

theorem mem_language_char_pow {set : CharClass} (n : Nat) (w : List Char) :
    w ∈ (Regex.char set).language ^ n ↔ w.length = n ∧ ∀ c ∈ w, set.has c = true := by
  induction n generalizing w with
  | zero =>
      rw [pow_zero, Language.mem_one, List.length_eq_zero_iff]
      constructor
      · rintro rfl
        exact ⟨rfl, by simp⟩
      · exact And.left
  | succ n ih =>
      rw [pow_succ']
      constructor
      · intro hw
        rcases Language.mem_mul.1 hw with ⟨u, ⟨c, rfl, hc⟩, v, hv, rfl⟩
        rcases (ih v).1 hv with ⟨rfl, hrest⟩
        exact ⟨rfl, List.forall_mem_cons.2 ⟨hc, hrest⟩⟩
      · rintro ⟨hlength, hw⟩
        rcases List.length_eq_succ_iff.1 hlength with ⟨c, v, rfl, hv⟩
        rcases List.forall_mem_cons.1 hw with ⟨hc, hrest⟩
        exact Language.append_mem_mul (a := [c]) ⟨c, rfl, hc⟩ ((ih v).2 ⟨hv, hrest⟩)

/-- A class that is repeated matches the words of its characters that are long enough. -/
theorem mem_language_rep_char {set : CharClass} {min : Nat} {greedy : Bool} {w : List Char} :
    w ∈ (Regex.rep (.char set) min none greedy).language ↔
      min ≤ w.length ∧ ∀ c ∈ w, set.has c = true := by
  simp only [mem_language_rep_none, mem_language_char_pow]
  constructor
  · rintro ⟨n, hlength, hw⟩
    exact ⟨by omega, hw⟩
  · rintro ⟨hlength, hw⟩
    exact ⟨w.length - min, by omega, hw⟩

/-! ## Whole texts -/

/-- Between the beginning and the end of a text, expressions ask whether all of it is a word. -/
theorem isMatch_whole {rs : List Regex} (hrs : ∀ r ∈ rs, r.isPlain = true) (cs : List Char) :
    (concat (.assertion .textStart :: (rs ++ [.assertion .textEnd]))).isMatch cs = true ↔
      cs ∈ (rs.map language).prod := by
  have hspans : ∀ p q, (concat (.assertion .textStart :: (rs ++ [.assertion .textEnd]))).Spans p q ↔
      p.before = none ∧ q.rest = [] ∧ ∃ w ∈ (rs.map language).prod, p.Reads w q := by
    intro p q
    rw [spans_concat, SpansAll]
    simp only [spansAll_append, crosses_prod hrs _ _, SpansAll, Spans, Assertion.holds,
      Option.isNone_iff_eq_none, List.head?_eq_none_iff]
    constructor
    · rintro ⟨_, ⟨hstart, rfl⟩, m, hreads, _, ⟨hend, rfl⟩, rfl⟩
      exact ⟨hstart, hend, hreads⟩
    · rintro ⟨hstart, hend, hreads⟩
      exact ⟨p, ⟨hstart, rfl⟩, q, hreads, q, ⟨hend, rfl⟩, rfl⟩
  rw [isMatch_iff]
  constructor
  · rintro ⟨p, q, hwithin, hpq⟩
    rcases (hspans p q).1 hpq with ⟨hstart, hend, w, hw, hrest, -⟩
    obtain rfl := hwithin.eq_start hstart
    rw [hend, List.append_nil] at hrest
    rwa [show cs = w from hrest]
  · intro hcs
    refine ⟨_, (Cursor.start cs).advance cs.length, .refl _, (hspans _ _).2 ⟨rfl, ?_, cs, hcs, ?_, rfl⟩⟩
    · simp [Cursor.start]
    · simp [Cursor.start]

end Regex
end Pattern
end FormValidation
