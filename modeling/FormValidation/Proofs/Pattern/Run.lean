import FormValidation.Proofs.Pattern.Hits

/-!
# Runs of characters

A greedy repetition of a class runs ahead over the characters of the class and then gives them back one
by one (`Regex.hits_run`): its hits are those after the longest run allowed, after one character less, and
so on.  If what stands behind the repetition cannot begin with a character of the class, nothing that was
given back matters (`Regex.flatMap_hits_run`).
-/

namespace FormValidation
namespace Pattern

/-! ## Places further on -/

namespace Cursor

/-- The place after the next `n` characters, as far as there are so many. -/
def advance : Cursor → Nat → Cursor
  | p, 0 => p
  | p, n + 1 =>
      match p.next? with
      | none => p
      | some (_, q) => q.advance n

@[simp] theorem advance_zero (p : Cursor) : p.advance 0 = p :=
  rfl

theorem advance_of_rest_eq_nil {p : Cursor} (h : p.rest = []) (n : Nat) : p.advance n = p := by
  cases n <;> simp [advance, next?, h]

@[simp] theorem rest_advance (p : Cursor) (n : Nat) : (p.advance n).rest = p.rest.drop n := by
  induction n generalizing p with
  | zero => rfl
  | succ n ih =>
      rcases p with ⟨offset, before, _ | ⟨c, cs⟩⟩
      · rfl
      · simp [advance, next?, ih]

theorem offset_advance {p : Cursor} {n : Nat} (h : n ≤ p.rest.length) :
    (p.advance n).offset = p.offset + n := by
  induction n generalizing p with
  | zero => rfl
  | succ n ih =>
      rcases p with ⟨offset, before, _ | ⟨c, cs⟩⟩
      · simp at h
      · have hlength : n ≤ cs.length := by simpa using h
        have hrest := ih (p := ⟨offset + 1, some c, cs⟩) hlength
        simp only [advance, next?, hrest]
        omega

theorem advance_advance (p : Cursor) (m n : Nat) : (p.advance m).advance n = p.advance (m + n) := by
  induction m generalizing p with
  | zero => simp
  | succ m ih =>
      rcases p with ⟨offset, before, _ | ⟨c, cs⟩⟩
      · simp [advance_of_rest_eq_nil]
      · rw [Nat.succ_add]
        exact ih ⟨offset + 1, some c, cs⟩

theorem text_advance {p : Cursor} {n : Nat} (h : n ≤ p.rest.length) :
    Capture.text ⟨p, p.advance n⟩ = p.rest.take n := by
  simp [Capture.text, offset_advance h]

end Cursor

namespace Hit

/-- The hit after the next `n` characters. -/
def advance (h : Hit) (n : Nat) : Hit :=
  { h with cursor := h.cursor.advance n }

@[simp] theorem cursor_advance (h : Hit) (n : Nat) : (h.advance n).cursor = h.cursor.advance n :=
  rfl

@[simp] theorem captures_advance (h : Hit) (n : Nat) : (h.advance n).captures = h.captures :=
  rfl

@[simp] theorem advance_zero (h : Hit) : h.advance 0 = h :=
  rfl

theorem advance_advance (h : Hit) (m n : Nat) : (h.advance m).advance n = h.advance (m + n) := by
  simp [advance, Cursor.advance_advance]

/-- The hits after the next `n` characters, after one less, and so on. -/
def back (h : Hit) : Nat → List Hit
  | 0 => [h]
  | n + 1 => h.advance (n + 1) :: h.back n

theorem back_succ (h : Hit) (n : Nat) : h.back (n + 1) = (h.advance 1).back n ++ [h] := by
  induction n with
  | zero => rfl
  | succ n ih =>
      rw [back, ih, back, advance_advance, Nat.add_comm 1]
      rfl

theorem head?_back (h : Hit) (n : Nat) : (h.back n).head? = some (h.advance n) := by
  cases n <;> rfl

theorem exists_of_mem_back {h q : Hit} {n : Nat} (hq : q ∈ h.back n) :
    ∃ i ≤ n, q = h.advance i := by
  induction n with
  | zero => exact ⟨0, Nat.le_refl 0, List.mem_singleton.1 hq⟩
  | succ n ih =>
      rcases List.mem_cons.1 hq with rfl | hq
      · exact ⟨n + 1, Nat.le_refl _, rfl⟩
      · rcases ih hq with ⟨i, hi, rfl⟩
        exact ⟨i, Nat.le_succ_of_le hi, rfl⟩

theorem nodup_back {h : Hit} {n : Nat} (hn : n ≤ h.cursor.rest.length) :
    ((h.back n).map (·.cursor.offset)).Nodup := by
  induction n with
  | zero => simp [back]
  | succ n ih =>
      refine List.nodup_cons.2 ⟨?_, ih (Nat.le_of_succ_le hn)⟩
      intro hmem
      rcases List.mem_map.1 hmem with ⟨q, hq, heq⟩
      rcases exists_of_mem_back hq with ⟨i, hi, rfl⟩
      simp only [cursor_advance] at heq
      rw [Cursor.offset_advance (by omega), Cursor.offset_advance hn] at heq
      omega

theorem firsts_back {h : Hit} {n : Nat} (hn : n ≤ h.cursor.rest.length) :
    firsts [] (h.back n) = h.back n :=
  firsts_eq_self (nodup_back hn) (by simp)

/-- If nothing comes of what was given back, only the farthest hit counts. -/
theorem flatMap_back {f : Hit → List Hit} {h : Hit} {n : Nat}
    (hblocked : ∀ i < n, f (h.advance i) = []) : (h.back n).flatMap f = f (h.advance n) := by
  induction n with
  | zero => simp [back]
  | succ n ih =>
      have hrest := ih fun i hi => hblocked i (Nat.lt_succ_of_lt hi)
      rw [hblocked n (Nat.lt_succ_self n)] at hrest
      rw [back, List.flatMap_cons, hrest, List.append_nil]

end Hit

/-! ## Characters of a class -/

namespace CharClass

variable {set : CharClass}

/-- Whether a class contains a character. -/
def has (set : CharClass) (c : Char) : Bool :=
  set.contains c.toNat

theorem has_single (c c' : Char) : (CharClass.single c).has c' = true ↔ c' = c := by
  have hchar : c'.toNat = c.toNat ↔ c' = c := Char.toNat_inj
  rw [← hchar]
  simp only [has, single, contains, Unicode.Ranges.contains, List.any_cons, List.any_nil,
    Bool.or_false, Bool.and_eq_true, decide_eq_true_eq]
  omega

/-- How many characters of a class come next. -/
def run (set : CharClass) (p : Cursor) : Nat :=
  (p.rest.takeWhile set.has).length

theorem run_le_length (set : CharClass) (p : Cursor) : set.run p ≤ p.rest.length :=
  (List.takeWhile_sublist _).length_le

theorem exists_of_run_pos {p : Cursor} (h : 0 < set.run p) :
    ∃ c cs, p.rest = c :: cs ∧ set.has c = true := by
  rcases p with ⟨offset, before, _ | ⟨c, cs⟩⟩
  · simp [run] at h
  · by_cases hc : set.has c = true
    · exact ⟨c, cs, rfl, hc⟩
    · simp [run, hc] at h

theorem run_advance {p : Cursor} {n : Nat} (h : n ≤ set.run p) :
    set.run (p.advance n) = set.run p - n := by
  rw [run, run, Cursor.rest_advance]
  unfold run at h
  -- Only the rest of the text matters from here on.
  generalize p.rest = cs at h
  induction n generalizing cs with
  | zero => simp
  | succ n ih =>
      cases cs with
      | nil => simp at h
      | cons c cs =>
          by_cases hc : set.has c = true
          · have hn : n ≤ (cs.takeWhile set.has).length := by simpa [List.takeWhile_cons, hc] using h
            simpa [List.takeWhile_cons, hc] using ih cs hn
          · simp [hc] at h

end CharClass

namespace Regex

variable {set : CharClass} {h : Hit}

theorem hits_char_of_pos (hrun : 0 < set.run h.cursor) : (Regex.char set).hits h = [h.advance 1] := by
  rcases CharClass.exists_of_run_pos hrun with ⟨c, cs, hrest, hc⟩
  have hnext : h.cursor.next? = some (c, ⟨h.cursor.offset + 1, some c, cs⟩) := by
    simp [Cursor.next?, hrest]
  have hc' : set.contains c.toNat = true := hc
  simp [hits, hnext, hc', Hit.advance, Cursor.advance]

theorem hits_char_of_eq_zero (hrun : set.run h.cursor = 0) : (Regex.char set).hits h = [] := by
  rcases h with ⟨⟨offset, before, _ | ⟨c, cs⟩⟩, captures⟩
  · rfl
  · have hc : set.contains c.toNat ≠ true := by
      intro hc
      have hhas : set.has c = true := hc
      simp [CharClass.run, hhas] at hrun
    simp [hits, Cursor.next?, hc]

end Regex

/-! ## Walks over a class -/

namespace Repetition

variable {set : CharClass} {body : Hit → List Hit}

theorem walk_leaves (greedy : Bool) (stride : Nat) (seen : List Nat) (leaves : List Hit) {fuel : Nat}
    (hfuel : leaves.length ≤ fuel) :
    walk body greedy stride fuel seen (leaves.map .leave) = leaves := by
  induction leaves generalizing fuel with
  | nil => cases fuel <;> rfl
  | cons h leaves ih =>
      rcases Nat.exists_eq_succ_of_ne_zero (Nat.ne_zero_of_lt hfuel) with ⟨fuel, rfl⟩
      simp [walk, ih (Nat.le_of_succ_le_succ hfuel)]

theorem walk_enter {stride : Nat} {seen : List Nat} {more : Option Nat} {h : Hit}
    (hnew : mark stride more h ∉ seen) (fuel : Nat) (visits : List Visit) :
    walk body true stride (fuel + 1) seen (.enter more h :: visits) =
      walk body true stride fuel (mark stride more h :: seen)
        (onward body more h ++ .leave h :: visits) := by
  simp [walk, hnew]

/-- A loop without a bound over the characters of a class.  The places that were entered before are all
behind. -/
theorem walk_unbounded (fuel : Nat) (seen : List Nat) (h : Hit) (leaves : List Hit)
    (hseen : ∀ m ∈ seen, m < h.cursor.offset)
    (hfuel : 2 * (set.run h.cursor + 1) + leaves.length ≤ fuel) :
    walk (Regex.char set).hits true 0 fuel seen (.enter none h :: leaves.map .leave) =
      h.back (set.run h.cursor) ++ leaves := by
  -- Induction on the length of the run; what is behind becomes one more leaf to be listed.
  generalize hn : set.run h.cursor = n at hfuel ⊢
  induction n generalizing fuel seen h leaves with
  | zero =>
      obtain ⟨fuel, rfl⟩ : ∃ k, fuel = k + 1 := ⟨fuel - 1, by omega⟩
      have hnew : mark 0 none h ∉ seen := by
        intro hmem
        simpa [mark] using hseen _ hmem
      have honward : onward (Regex.char set).hits none h = [] := by
        simp [onward, Regex.hits_char_of_eq_zero hn]
      rw [walk_enter hnew, honward]
      exact walk_leaves true 0 _ (h :: leaves) (by simp; omega)
  | succ n ih =>
      obtain ⟨fuel, rfl⟩ : ∃ k, fuel = k + 1 := ⟨fuel - 1, by omega⟩
      have hpos : 0 < set.run h.cursor := by omega
      have hlength := set.run_le_length h.cursor
      have hoffset : (h.cursor.advance 1).offset = h.cursor.offset + 1 :=
        Cursor.offset_advance (by omega)
      have hrun : set.run (h.advance 1).cursor = n := by
        rw [Hit.cursor_advance, CharClass.run_advance hpos, hn]
        rfl
      have hnew : mark 0 none h ∉ seen := by
        intro hmem
        simpa [mark] using hseen _ hmem
      have honward : onward (Regex.char set).hits none h = [.enter none (h.advance 1)] := by
        simp [onward, Regex.hits_char_of_pos hpos, hoffset]
      have hbehind : ∀ m ∈ mark 0 none h :: seen, m < (h.advance 1).cursor.offset := by
        intro m hm
        rw [Hit.cursor_advance, hoffset]
        rcases List.mem_cons.1 hm with rfl | hm
        · simp [mark]
        · exact Nat.lt_succ_of_lt (hseen m hm)
      rw [walk_enter hnew, honward, Hit.back_succ, List.append_assoc]
      exact ih fuel _ (h.advance 1) (h :: leaves) hbehind hrun (by simp; omega)

/-- A loop with a bound over the characters of a class.  The marks of what was entered before are all
greater, since fewer matches are still allowed. -/
theorem walk_bounded {stride : Nat} (bound fuel : Nat) (seen : List Nat) (h : Hit) (leaves : List Hit)
    (hstride : 0 < set.run h.cursor → 1 < stride)
    (hseen : ∀ m ∈ seen, mark stride (some bound) h < m)
    (hfuel : 2 * (bound + 1) + leaves.length ≤ fuel) :
    walk (Regex.char set).hits true stride fuel seen (.enter (some bound) h :: leaves.map .leave) =
      h.back (min bound (set.run h.cursor)) ++ leaves := by
  induction bound generalizing fuel seen h leaves with
  | zero =>
      obtain ⟨fuel, rfl⟩ : ∃ k, fuel = k + 1 := ⟨fuel - 1, by omega⟩
      have hnew : mark stride (some 0) h ∉ seen := fun hmem => Nat.lt_irrefl _ (hseen _ hmem)
      rw [walk_enter hnew, Nat.zero_min]
      exact walk_leaves true stride _ (h :: leaves) (by simp; omega)
  | succ bound ih =>
      obtain ⟨fuel, rfl⟩ : ∃ k, fuel = k + 1 := ⟨fuel - 1, by omega⟩
      have hnew : mark stride (some (bound + 1)) h ∉ seen :=
        fun hmem => Nat.lt_irrefl _ (hseen _ hmem)
      rcases Nat.eq_zero_or_pos (set.run h.cursor) with hzero | hpos
      · -- The run is over before the bound is reached.
        have honward : onward (Regex.char set).hits (some (bound + 1)) h = [] := by
          simp [onward, Regex.hits_char_of_eq_zero hzero]
        rw [walk_enter hnew, honward, hzero, Nat.min_zero]
        exact walk_leaves true stride _ (h :: leaves) (by simp; omega)
      · have hlength := set.run_le_length h.cursor
        have hoffset : (h.cursor.advance 1).offset = h.cursor.offset + 1 :=
          Cursor.offset_advance (by omega)
        have hrun : set.run (h.advance 1).cursor = set.run h.cursor - 1 :=
          CharClass.run_advance hpos
        have honward : onward (Regex.char set).hits (some (bound + 1)) h =
            [.enter (some bound) (h.advance 1)] := by
          simp [onward, Regex.hits_char_of_pos hpos]
        -- One place further on counts for less than one more match allowed.
        have hmark : mark stride (some bound) (h.advance 1) < mark stride (some (bound + 1)) h := by
          have := hstride hpos
          simp only [mark, Option.getD_some, Hit.cursor_advance, hoffset, Nat.add_mul]
          omega
        have hgreater : ∀ m ∈ mark stride (some (bound + 1)) h :: seen,
            mark stride (some bound) (h.advance 1) < m := by
          intro m hm
          rcases List.mem_cons.1 hm with rfl | hm
          · exact hmark
          · exact Nat.lt_trans hmark (hseen m hm)
        have hmin : min (bound + 1) (set.run h.cursor) =
            min bound (set.run (h.advance 1).cursor) + 1 := by
          omega
        rw [walk_enter hnew, honward, hmin, Hit.back_succ, List.append_assoc]
        exact ih fuel _ (h.advance 1) (h :: leaves) (fun _ => hstride hpos) hgreater (by simp; omega)

/-! ## Repetitions of a class -/

theorem copies_nil (n : Nat) : copies body n [] = [] := by
  induction n with
  | zero => rfl
  | succ n ih => exact ih

theorem copies_char (n : Nat) (h : Hit) :
    copies (Regex.char set).hits n [h] = if n ≤ set.run h.cursor then [h.advance n] else [] := by
  induction n generalizing h with
  | zero => rfl
  | succ n ih =>
      rw [copies, List.flatMap_singleton, Regex.firsts_hits]
      rcases Nat.eq_zero_or_pos (set.run h.cursor) with hzero | hpos
      · rw [Regex.hits_char_of_eq_zero hzero, copies_nil, if_neg (by omega)]
      · have hrun : set.run (h.advance 1).cursor = set.run h.cursor - 1 :=
          CharClass.run_advance hpos
        have hle : n ≤ set.run h.cursor - 1 ↔ n + 1 ≤ set.run h.cursor := by omega
        rw [Regex.hits_char_of_pos hpos, ih, hrun, Hit.advance_advance, Nat.add_comm 1]
        simp only [hle]

theorem upTo_char (bound : Nat) (h : Hit) :
    upTo (Regex.char set).hits true bound h = h.back (min bound (set.run h.cursor)) := by
  have hlength := set.run_le_length h.cursor
  have hfuel : 2 * (bound + 1) + ([] : List Hit).length ≤ enough bound h := by
    have hsquare : 2 ≤ (h.cursor.rest.length + 2) * (h.cursor.rest.length + 2) :=
      Nat.le_trans (Nat.le_add_left 2 _) (Nat.le_mul_of_pos_right _ (Nat.succ_pos _))
    have henough : (bound + 2) * 2 ≤ enough bound h := by
      rw [enough, Nat.mul_assoc]
      exact Nat.mul_le_mul_left _ hsquare
    simp only [List.length_nil]
    omega
  have hwalk : walk (Regex.char set).hits true (h.cursor.offset + h.cursor.rest.length + 1)
      (enough bound h) [] [.enter (some bound) h] = h.back (min bound (set.run h.cursor)) ++ [] :=
    walk_bounded bound _ [] h [] (by omega) (by simp) hfuel
  rw [upTo, hwalk, List.append_nil, Hit.firsts_back (by omega)]

theorem plus_char (h : Hit) :
    plus (Regex.char set).hits true h =
      if 0 < set.run h.cursor then (h.advance 1).back (set.run h.cursor - 1) else [] := by
  rcases Nat.eq_zero_or_pos (set.run h.cursor) with hzero | hpos
  · rw [plus, Regex.hits_char_of_eq_zero hzero, if_neg (by omega)]
    exact congrArg (Hit.firsts []) (walk_leaves true 0 [] [] (Nat.zero_le _))
  · have hlength := set.run_le_length h.cursor
    have hoffset : (h.cursor.advance 1).offset = h.cursor.offset + 1 :=
      Cursor.offset_advance (by omega)
    have hrun : set.run (h.advance 1).cursor = set.run h.cursor - 1 := CharClass.run_advance hpos
    have hfuel : 2 * (set.run (h.advance 1).cursor + 1) + ([] : List Hit).length ≤ enough 0 h := by
      have henough : 2 * (h.cursor.rest.length + 2) ≤ enough 0 h :=
        Nat.le_mul_of_pos_right _ (Nat.succ_pos _)
      simp only [List.length_nil]
      omega
    have hwalk := walk_unbounded _ [] (h.advance 1) [] (by simp) hfuel
    have hback : set.run h.cursor - 1 ≤ (h.advance 1).cursor.rest.length := by
      simp only [Hit.cursor_advance, Cursor.rest_advance, List.length_drop]
      omega
    rw [plus, Regex.hits_char_of_pos hpos, if_pos hpos]
    simp only [List.map_cons, List.map_nil, Hit.cursor_advance, hoffset, beq_iff_eq,
      Nat.succ_ne_self, if_false] at hwalk ⊢
    rw [hwalk, List.append_nil, ← Hit.cursor_advance, hrun, Hit.firsts_back hback]

end Repetition

/-! ## Greedy runs -/

/-- How many characters of a class a repetition of at most so many runs over. -/
def CharClass.reach (set : CharClass) (most : Option Nat) (p : Cursor) : Nat :=
  match most with
  | .none => set.run p
  | .some m => min m (set.run p)

theorem CharClass.reach_le_run (set : CharClass) (most : Option Nat) (p : Cursor) :
    set.reach most p ≤ set.run p := by
  cases most with
  | none => exact Nat.le_refl _
  | some m => exact Nat.min_le_right _ _

namespace Regex

variable {set : CharClass} {s : Regex} {h : Hit} {least : Nat} {most : Option Nat}

/-- A greedy repetition of a class runs as far as it can and gives characters back one by one. -/
theorem hits_run (hleast : most = none → 0 < least) (hmost : ∀ m ∈ most, least ≤ m) (h : Hit) :
    (Regex.rep (.char set) least most true).hits h =
      if least ≤ set.reach most h.cursor then
        (h.advance least).back (set.reach most h.cursor - least)
      else [] := by
  have hlength := set.run_le_length h.cursor
  have hback : set.reach most h.cursor - least ≤ (h.advance least).cursor.rest.length := by
    have := set.reach_le_run most h.cursor
    simp only [Hit.cursor_advance, Cursor.rest_advance, List.length_drop]
    omega
  cases most with
  | some m =>
      have hle : least ≤ m := hmost m rfl
      have hreach : set.reach (some m) h.cursor = min m (set.run h.cursor) := rfl
      rw [hits, Repetition.hits, Repetition.copies_char]
      by_cases hrun : least ≤ set.run h.cursor
      · -- Behind the characters that have to be there the rest of the bound is left.
        have hleft : min (m - least) (set.run (h.advance least).cursor) =
            set.reach (some m) h.cursor - least := by
          rw [Hit.cursor_advance, CharClass.run_advance hrun, hreach]
          omega
        rw [if_pos hrun, if_pos (by omega), List.flatMap_singleton, Repetition.upTo_char, hleft,
          Hit.firsts_back hback]
      · rw [if_neg hrun, if_neg (by omega)]
        rfl
  | none =>
      rcases Nat.exists_eq_succ_of_ne_zero (Nat.ne_of_gt (hleast rfl)) with ⟨n, rfl⟩
      have hreach : set.reach none h.cursor = set.run h.cursor := rfl
      rw [hits, Repetition.hits, Repetition.copies_char]
      by_cases hn : n ≤ set.run h.cursor
      · -- The last character that has to be there is the first one of the loop.
        have hleft : set.run (h.advance n).cursor = set.run h.cursor - n :=
          CharClass.run_advance hn
        rw [if_pos hn, List.flatMap_singleton, Repetition.plus_char, hleft, Hit.advance_advance]
        by_cases hrun : n + 1 ≤ set.run h.cursor
        · have hrest : set.run h.cursor - n - 1 = set.reach none h.cursor - (n + 1) := by omega
          rw [if_pos (by omega), if_pos (by omega), hrest, Hit.firsts_back hback]
        · rw [if_neg (by omega), if_neg (by omega)]
          rfl
      · rw [if_neg hn, if_neg (by omega)]
        rfl

/-- The preferred hit of a greedy repetition of a class is the one after the longest run. -/
theorem head?_hits_run (hleast : most = none → 0 < least) (hmost : ∀ m ∈ most, least ≤ m) (h : Hit) :
    ((Regex.rep (.char set) least most true).hits h).head? =
      if least ≤ set.reach most h.cursor then some (h.advance (set.reach most h.cursor)) else none := by
  rw [hits_run hleast hmost]
  split
  · rename_i hle
    rw [Hit.head?_back, Hit.advance_advance, Nat.add_sub_cancel' hle]
  · rfl

/-- If nothing matches behind characters that were given back, only the longest run counts. -/
theorem flatMap_hits_run (hleast : most = none → 0 < least) (hmost : ∀ m ∈ most, least ≤ m)
    {f : Hit → List Hit} (hblocked : ∀ i < set.reach most h.cursor, f (h.advance i) = []) :
    ((Regex.rep (.char set) least most true).hits h).flatMap f =
      if least ≤ set.reach most h.cursor then f (h.advance (set.reach most h.cursor)) else [] := by
  rw [hits_run hleast hmost]
  split
  · rename_i hle
    have hbehind : ∀ i < set.reach most h.cursor - least, f ((h.advance least).advance i) = [] := by
      intro i hi
      rw [Hit.advance_advance]
      exact hblocked _ (by omega)
    rw [Hit.flatMap_back hbehind, Hit.advance_advance, Nat.add_sub_cancel' hle]
  · rfl

end Regex
end Pattern
end FormValidation
