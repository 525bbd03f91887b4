import Mathlib.Data.Set.Basic
import FormValidation.Proofs.Text.Pieces

/-!
# Texts that list words

A text lists what stands between its commas, without the white space around it, unless that is nothing
(`Text.listed`); these are its pieces (`mem_pieces_iff`).  A text made of some texts with commas between them lists
what each of them lists (`pieces_join`).  So it lists the same in another order, with repetitions, with
white space around its parts and with more commas (`Respelled.mem_pieces_iff`).
-/

namespace FormValidation
namespace Text

/-! ## Pieces as a set -/

/-- What stands between the commas of a text, without the white space around it, unless that is nothing. -/
def listed (s : String) : Set String :=
  { word | word ≠ "" ∧
    ∃ stretches stretch, IsCut ',' s stretches ∧ stretch ∈ stretches ∧ IsTrimmed stretch word }

theorem mem_pieces_iff {s word : String} : word ∈ pieces s ↔ word ∈ listed s := by
  constructor
  · intro h
    rcases List.mem_filter.1 h with ⟨hmem, hne⟩
    rcases List.mem_map.1 hmem with ⟨stretch, hstretch, htrim⟩
    exact ⟨by simpa using hne, _, stretch, isCut_split ',' s, hstretch, trim_eq_iff.1 htrim⟩
  · rintro ⟨hne, stretches, stretch, hcut, hstretch, htrimmed⟩
    refine List.mem_filter.2 ⟨List.mem_map.2 ⟨stretch, ?_, trim_eq_iff.2 htrimmed⟩, by simpa using hne⟩
    rwa [isCut_iff.1 hcut]

/-! ## White space around a text -/

theorem comma_notMem {cs : List Char} (h : ∀ c ∈ cs, isBlank c = true) : ',' ∉ cs :=
  fun hmem => absurd (h ',' hmem) (by decide)

theorem trimChars_append_left {before : List Char} (h : ∀ c ∈ before, isBlank c = true) (cs : List Char) :
    trimChars (before ++ cs) = trimChars cs := by
  rw [trimChars, List.dropWhile_append_of_pos h, trimChars]

theorem trimChars_append_right {after : List Char} (h : ∀ c ∈ after, isBlank c = true) (cs : List Char) :
    trimChars (cs ++ after) = trimChars cs := by
  rcases exists_trimChars_append cs with ⟨front, back, hcs, hfront, hback⟩
  have hafter : ∀ c ∈ back ++ after, isBlank c = true := List.forall_mem_append.2 ⟨hback, h⟩
  calc
    trimChars (cs ++ after) = trimChars (front ++ trimChars cs ++ (back ++ after)) := by
      rw [← List.append_assoc, ← hcs]
    _ = trimChars cs := trimChars_append hfront (isTight_trimChars cs) hafter

/-- What a text lists: its stretches between commas, trimmed. -/
def stretches (cs : List Char) : List (List Char) :=
  (splitChars ',' cs).map trimChars

theorem pieces_eq_stretches (s : String) :
    pieces s = ((stretches s.toList).map String.ofList).filter fun word => word != "" := by
  simp [pieces, stretches, split, trim, Function.comp_def]

theorem stretches_of_notMem {cs : List Char} (h : ',' ∉ cs) : stretches cs = [trimChars cs] := by
  rw [stretches, splitChars_of_notMem h, List.map_singleton]

theorem stretches_append (cs ds : List Char) : stretches (cs ++ ',' :: ds) = stretches cs ++ stretches ds := by
  rw [stretches, splitChars_append, List.map_append, stretches, stretches]

/-- White space in front of a text stands in front of its first stretch. -/
theorem stretches_append_left {before : List Char} (h : ∀ c ∈ before, isBlank c = true) (cs : List Char) :
    stretches (before ++ cs) = stretches cs := by
  have hone : ∀ ds : List Char, ',' ∉ ds → stretches (before ++ ds) = stretches ds := by
    intro ds hds
    rw [stretches_of_notMem (List.not_mem_append (comma_notMem h) hds), stretches_of_notMem hds,
      trimChars_append_left h]
  by_cases hcomma : ',' ∈ cs
  · rcases List.eq_append_cons_of_mem hcomma with ⟨first, rest, rfl, hfirst⟩
    rw [← List.append_assoc, stretches_append, stretches_append, hone first hfirst]
  · exact hone cs hcomma

/-- White space behind a text stands behind its last stretch. -/
theorem stretches_append_right {after : List Char} (h : ∀ c ∈ after, isBlank c = true) (cs : List Char) :
    stretches (cs ++ after) = stretches cs := by
  have hone : ∀ ds : List Char, ',' ∉ ds → stretches (ds ++ after) = stretches ds := by
    intro ds hds
    rw [stretches_of_notMem (List.not_mem_append hds (comma_notMem h)), stretches_of_notMem hds,
      trimChars_append_right h]
  by_cases hcomma : ',' ∈ cs
  · -- The last comma is the first one from behind.
    rcases List.eq_append_cons_of_mem (List.mem_reverse.2 hcomma) with ⟨last, front, hreverse, hlast⟩
    obtain rfl : cs = front.reverse ++ ',' :: last.reverse := by
      rw [← List.reverse_inj, hreverse]
      simp
    have hnot : ',' ∉ last.reverse := fun hmem => hlast (List.mem_reverse.1 hmem)
    rw [List.append_assoc, List.cons_append, stretches_append, stretches_append, hone _ hnot]
  · exact hone cs hcomma

theorem pieces_append_blank {before after : String} (hbefore : IsBlank before) (hafter : IsBlank after)
    (s : String) : pieces (before ++ s ++ after) = pieces s := by
  rw [pieces_eq_stretches, pieces_eq_stretches, String.toList_append, String.toList_append,
    stretches_append_right hafter, stretches_append_left hbefore]

/-- Commas and white space list nothing. -/
theorem pieces_eq_nil {s : String} (h : ∀ c ∈ s.toList, c = ',' ∨ isBlank c = true) : pieces s = [] := by
  have hnil : ∀ cs : List Char, (∀ c ∈ cs, c = ',' ∨ isBlank c = true) → ∀ ds ∈ stretches cs, ds = [] := by
    intro cs hcs
    induction cs with
    | nil => simp [stretches, splitChars, trimChars]
    | cons c cs ih =>
        rw [List.forall_mem_cons] at hcs
        rcases hcs.1 with rfl | hc
        · rw [← List.nil_append (',' :: cs), stretches_append, List.forall_mem_append]
          exact ⟨by simp [stretches, splitChars, trimChars], ih hcs.2⟩
        · rw [← List.singleton_append, stretches_append_left (List.forall_mem_singleton.2 hc)]
          exact ih hcs.2
  rw [pieces_eq_stretches, List.filter_eq_nil_iff, List.forall_mem_map]
  intro ds hds
  simp [hnil _ h ds hds]

/-! ## Joined texts -/

/-- The texts with commas between them. -/
def join (ps : List String) : String :=
  ",".intercalate ps

theorem join_cons {p : String} {ps : List String} (h : ps ≠ []) : join (p :: ps) = p ++ "," ++ join ps :=
  String.intercalate_cons_of_ne_nil h

theorem pieces_join (ps : List String) : pieces (join ps) = ps.flatMap pieces := by
  induction ps with
  | nil => rfl
  | cons p ps ih =>
      by_cases h : ps = []
      · subst h
        simp [join]
      · rw [join_cons h, pieces_append_comma, ih, List.flatMap_cons]

/-- Joined texts are white space only if there is no comma between them. -/
theorem isBlank_join_iff (ps : List String) : IsBlank (join ps) ↔ ps.length ≤ 1 ∧ ∀ p ∈ ps, IsBlank p := by
  match ps with
  | [] => simp [join, IsBlank]
  | [p] => simp [join]
  | p :: q :: ps =>
      have hcomma : ¬IsBlank (join (p :: q :: ps)) := by
        intro h
        refine comma_notMem h ?_
        rw [join_cons (List.cons_ne_nil _ _)]
        simp
      exact iff_of_false hcomma fun h => by simp at h

/-- The second list comes of the first one when its texts are put in another order or repeated, white space is put
around them, and more commas are put between them. -/
inductive Respelled : List String → List String → Prop where
  | refl (ps : List String) : Respelled ps ps
  | reordered {ps qs : List String} (h : ps.Perm qs) : Respelled ps qs
  | repeated {p : String} {ps : List String} (h : p ∈ ps) : Respelled ps (p :: ps)
  | padded {before after : String} (hbefore : IsBlank before) (hafter : IsBlank after) (p : String)
      (ps : List String) : Respelled (p :: ps) ((before ++ p ++ after) :: ps)
  | comma (ps : List String) : Respelled ps ("" :: ps)
  | trans {ps qs rs : List String} (h : Respelled ps qs) (h' : Respelled qs rs) : Respelled ps rs

namespace Respelled

variable {ps qs : List String}

/-- Texts that are respelled list the same. -/
theorem mem_pieces_iff (h : Respelled ps qs) (word : String) :
    word ∈ pieces (join qs) ↔ word ∈ pieces (join ps) := by
  rw [pieces_join, pieces_join]
  induction h with
  | refl ps => rfl
  | reordered h => exact (h.flatMap_right pieces).mem_iff.symm
  | repeated h =>
      rw [List.flatMap_cons, List.mem_append, or_iff_right_of_imp]
      exact fun hword => List.mem_flatMap.2 ⟨_, h, hword⟩
  | padded hbefore hafter p ps =>
      rw [List.flatMap_cons, List.flatMap_cons, pieces_append_blank hbefore hafter]
  | comma ps => rfl
  | trans h h' ih ih' => exact ih'.trans ih

/-- A text that is not white space only is still none when it is respelled. -/
theorem isBlank_join (h : Respelled ps qs) (hblank : IsBlank (join qs)) : IsBlank (join ps) := by
  rw [isBlank_join_iff] at hblank ⊢
  induction h with
  | refl ps => exact hblank
  | reordered h => exact ⟨h.length_eq ▸ hblank.1, fun p hp => hblank.2 p (h.mem_iff.1 hp)⟩
  | repeated h | comma ps =>
      rw [List.length_cons, List.forall_mem_cons] at hblank
      exact ⟨by omega, hblank.2.2⟩
  | @padded before after _ _ p ps =>
      rw [List.length_cons, List.forall_mem_cons] at hblank
      rw [List.length_cons, List.forall_mem_cons]
      refine ⟨hblank.1, fun c hc => hblank.2.1 c ?_, hblank.2.2⟩
      simp [hc]
  | trans h h' ih ih' => exact ih (ih' hblank)

end Respelled

end Text
end FormValidation
