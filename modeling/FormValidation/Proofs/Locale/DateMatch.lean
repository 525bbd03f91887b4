import FormValidation.Proofs.Locale.DateScan
import FormValidation.Proofs.Pattern.Run

/-!
# Matching dates

The expressions of the date formats match what is scanned, and their groups remember the digits of the scan
(`Regex.find?_date`).  Nothing else has to be tried:

* digits with a sign behind them match in one way only, since the sign is no digit (`Regex.hits_field`);
* nor is any character of the gap before a time of day (`Regex.hits_concat_gap`);
* behind the last digits of a date or of a time only what may be left out follows, so the longest run of
  them is preferred (`Regex.head?_hits_third`, `Regex.head?_hits_minute`).
-/

namespace FormValidation

namespace Pattern

/-! ## Remembering digits -/

namespace Captures

variable {captures : Captures} {i j : Nat}

theorem text?_cons_self (c : Capture) : Captures.text? ((i, c) :: captures) i = some c.text := by
  simp [text?]

theorem text?_cons_of_ne (c : Capture) (h : j ≠ i) :
    Captures.text? ((i, c) :: captures) j = captures.text? j := by
  have hbeq : (j == i) = false := by simpa using h
  simp [text?, List.lookup_cons, hbeq]

end Captures

namespace Hit

/-- The hit after the next `n` characters, which a group remembers. -/
def note (i n : Nat) (h : Hit) : Hit :=
  closing i h (h.advance n)

@[simp] theorem cursor_note (i n : Nat) (h : Hit) : (h.note i n).cursor = h.cursor.advance n :=
  rfl

theorem text?_note {n : Nat} {h : Hit} (i : Nat) (hn : n ≤ h.cursor.rest.length) :
    (h.note i n).captures.text? i = some (h.cursor.rest.take n) := by
  rw [← Cursor.text_advance hn]
  exact Captures.text?_cons_self _

theorem text?_note_of_ne {i j : Nat} (n : Nat) (h : Hit) (hne : j ≠ i) :
    (h.note i n).captures.text? j = h.captures.text? j :=
  Captures.text?_cons_of_ne _ hne

theorem text?_closing_of_ne {i j : Nat} (p q : Hit) (hne : j ≠ i) :
    (closing i p q).captures.text? j = q.captures.text? j :=
  Captures.text?_cons_of_ne _ hne

/-- What is known of a hit once a group has remembered digits and the given text is left. -/
structure Noted (i : Nat) (digits rest : List Char) (h q : Hit) : Prop where
  rest : q.cursor.rest = rest
  text : q.captures.text? i = some digits
  others : ∀ j, j ≠ i → q.captures.text? j = h.captures.text? j

theorem noted_of_run? {least : Nat} {most : Option Nat} {h : Hit} {digits rest : List Char}
    (hrun : DateScan.run? least most h.cursor.rest = some (digits, rest)) (i : Nat) :
    Noted i digits rest h (h.note i digits.length) := by
  rcases DateScan.eq_of_run? hrun with ⟨hlength, htake, hdrop⟩
  refine ⟨by simpa using hdrop, ?_, fun j hj => text?_note_of_ne _ _ hj⟩
  rw [text?_note i hlength, htake]

theorem noted_of_field? {least most : Nat} {sign : Char} {h : Hit} {digits rest : List Char}
    (hfield : DateScan.field? least most sign h.cursor.rest = some (digits, rest)) (i : Nat) :
    Noted i digits rest h ((h.note i digits.length).advance 1) := by
  rcases DateScan.eq_of_field? hfield with ⟨hlength, htake, hdrop⟩
  refine ⟨by simpa using hdrop, ?_, fun j hj => text?_note_of_ne _ _ hj⟩
  rw [captures_advance, text?_note i hlength, htake]

end Hit

/-! ## Digits and signs -/

namespace CharClass

theorem has_digit : CharClass.digit.has = Char.isDigit := by
  funext c
  rw [Bool.eq_iff_iff, DateScan.isDigit_iff]
  simp [has, digit, contains, Unicode.Ranges.contains]

theorem run_digit (p : Cursor) : CharClass.digit.run p = (p.rest.takeWhile Char.isDigit).length := by
  rw [run, has_digit]

theorem reach_digit (most : Option Nat) (p : Cursor) :
    CharClass.digit.reach most p = DateScan.reach most p.rest := by
  cases most <;> simp [reach, DateScan.reach, run_digit]

theorem rest_advance_run (set : CharClass) (p : Cursor) :
    (p.advance (set.run p)).rest = p.rest.dropWhile set.has := by
  rw [Cursor.rest_advance]
  exact DateScan.drop_length_takeWhile _ _

theorem run_eq_zero {set : CharClass} {p : Cursor} {c : Char} (h : p.rest.head? = some c)
    (hc : set.has c = false) : set.run p = 0 := by
  rcases List.head?_eq_some_iff.1 h with ⟨cs, hrest⟩
  simp [run, hrest, hc]

end CharClass

namespace Regex

variable {h : Hit}

theorem hits_sign (c : Char) (h : Hit) :
    (Regex.sign c).hits h = if h.cursor.rest.head? = some c then [h.advance 1] else [] := by
  split
  · rename_i hhead
    rcases List.head?_eq_some_iff.1 hhead with ⟨cs, hrest⟩
    have hself : (CharClass.single c).has c = true := (CharClass.has_single c c).2 rfl
    exact hits_char_of_pos (by simp [CharClass.run, hrest, hself])
  · rename_i hhead
    refine hits_char_of_eq_zero ?_
    cases hrest : h.cursor.rest with
    | nil => simp [CharClass.run, hrest]
    | cons c' cs =>
        have hother : (CharClass.single c).has c' = false := by
          rw [Bool.eq_false_iff]
          intro hc
          exact hhead (by simp [hrest, (CharClass.has_single c c').1 hc])
        exact CharClass.run_eq_zero (by rw [hrest]; rfl) hother

/-- The preferred match of digits in a group takes the longest run. -/
theorem head?_hits_digits {least : Nat} {most : Option Nat} (i : Nat)
    (hleast : most = none → 0 < least) (hmost : ∀ m ∈ most, least ≤ m) (h : Hit) :
    ((Regex.group i (.digits least most)).hits h).head? =
      (DateScan.run? least most h.cursor.rest).map fun p => h.note i p.1.length := by
  have hlength := DateScan.reach_le_length most h.cursor.rest
  rw [hits_group, List.head?_map, Regex.digits, head?_hits_run hleast hmost, CharClass.reach_digit,
    DateScan.run?_eq]
  split
  · simp [Hit.note, List.length_take_of_le hlength]
  · rfl

/-- Digits in a group and a sign behind them match in one way only, since the sign is no digit. -/
theorem hits_field {least most : Nat} {c : Char} (i : Nat) (hle : least ≤ most)
    (hc : c.isDigit = false) (h : Hit) :
    ((Regex.group i (.digits least (some most))).seq (.sign c)).hits h =
      ((DateScan.field? least most c h.cursor.rest).map fun p =>
        (h.note i p.1.length).advance 1).toList := by
  -- Wherever a digit was given back, that digit stands where the sign would have to be.
  have hblocked : ∀ n < (h.cursor.rest.takeWhile Char.isDigit).length,
      (Regex.sign c).hits (Hit.closing i h (h.advance n)) = [] := by
    intro n hn
    rcases DateScan.exists_head?_drop hn with ⟨d, hd, hdigit⟩
    have hne : d ≠ c := by
      rintro rfl
      simp [hdigit] at hc
    rw [hits_sign, if_neg]
    simpa [Hit.closing, hd] using hne
  have hreach : CharClass.digit.reach (some most) h.cursor =
      min most (h.cursor.rest.takeWhile Char.isDigit).length := by
    rw [CharClass.reach_digit]
    rfl
  have hmatch : ((Regex.rep (.char .digit) least (some most) true).hits h).flatMap
        (fun q => (Regex.sign c).hits (Hit.closing i h q)) =
      if least ≤ CharClass.digit.reach (some most) h.cursor then
        (Regex.sign c).hits (Hit.closing i h (h.advance (CharClass.digit.reach (some most) h.cursor)))
      else [] :=
    flatMap_hits_run (by simp) (by simpa using hle) fun n hn => hblocked n (by omega)
  have hlength := (List.takeWhile_prefix Char.isDigit (l := h.cursor.rest)).length_le
  rw [hits, hits_group, List.flatMap_map, Regex.digits, hmatch, hreach, DateScan.field?_eq]
  generalize (h.cursor.rest.takeWhile Char.isDigit).length = n at hblocked hlength
  have hrest : (Hit.closing i h (h.advance n)).cursor.rest = h.cursor.rest.drop n := by
    simp [Hit.closing]
  by_cases hmost : n ≤ most
  · rw [Nat.min_eq_right hmost, hits_sign, hrest]
    by_cases hnext : h.cursor.rest[n]? = some c <;> by_cases hleast : least ≤ n <;>
      simp [hnext, hleast, hmost, Hit.firsts, Hit.note, List.length_take_of_le hlength]
  · -- One more digit stands where the sign would have to be.
    rw [Nat.min_eq_left (by omega), hblocked most (by omega)]
    simp [hmost, Hit.firsts]

/-- A sequence that begins with such digits and a sign goes on behind the sign. -/
theorem hits_concat_field {least most : Nat} {c : Char} (i : Nat) (hle : least ≤ most)
    (hc : c.isDigit = false) (s : Regex) (rs : List Regex) (h : Hit) :
    (concat (.group i (.digits least (some most)) :: .sign c :: s :: rs)).hits h =
      match DateScan.field? least most c h.cursor.rest with
      | none => []
      | some p => (concat (s :: rs)).hits ((h.note i p.1.length).advance 1) := by
  have hfield := hits_field i hle hc h
  cases hscan : DateScan.field? least most c h.cursor.rest with
  | none =>
      rw [hscan, Option.map_none, Option.toList_none] at hfield
      exact hits_foldl_seq_of_eq_nil hfield (s :: rs)
  | some p =>
      rw [hscan, Option.map_some, Option.toList_some] at hfield
      exact hits_foldl_seq_of_eq_singleton hfield s rs

/-! ## Times of day -/

/-- The expression of seconds, which may be left out. -/
def seconds : Regex :=
  .rep (.group 7 (.concat [.sign ':', .group 8 (.digits 1 (some 2))])) 0 (some 1) true

/-- The expression of a time of day behind characters of a class. -/
def clock (gap : CharClass) : Regex :=
  .concat [.rep (.char gap) 1 none true, .group 5 (.digits 1 (some 2)), .sign ':',
    .group 6 (.digits 1 (some 2)), seconds]

/-- The hit of the seconds remembers the digits that are scanned. -/
theorem head?_hits_seconds (h : Hit) :
    ∃ q, (seconds.hits h).head? = some q ∧
      (h.captures.text? 8 = none → q.captures.text? 8 = DateScan.second? h.cursor.rest) ∧
        ∀ j, j ≠ 7 → j ≠ 8 → q.captures.text? j = h.captures.text? j := by
  rw [seconds, head?_hits_optional, hits_group, List.head?_map]
  have hconcat : Regex.concat [.sign ':', .group 8 (.digits 1 (some 2))] =
      (Regex.sign ':').seq (.group 8 (.digits 1 (some 2))) := rfl
  rw [hconcat]
  by_cases hcolon : h.cursor.rest.head? = some ':'
  · -- Behind a colon it depends on the digits whether there are seconds.
    have hsign : (Regex.sign ':').hits h = [h.advance 1] := by rw [hits_sign, if_pos hcolon]
    rcases List.head?_eq_some_iff.1 hcolon with ⟨cs, hrest⟩
    have hafter : (h.advance 1).cursor.rest = cs := by simp [hrest]
    rw [hits_seq_of_eq_singleton hsign, head?_hits_digits 8 (by simp) (by simp), hafter, hrest,
      DateScan.second?, if_pos rfl]
    cases hrun : DateScan.run? 1 (some 2) cs with
    | none => exact ⟨h, rfl, id, fun j _ _ => rfl⟩
    | some p =>
        have hnoted := Hit.noted_of_run? (h := h.advance 1) (hafter ▸ hrun) 8
        refine ⟨.closing 7 h ((h.advance 1).note 8 p.1.length), rfl, ?_, ?_⟩
        · intro _
          exact (Hit.text?_closing_of_ne _ _ (by decide)).trans hnoted.text
        · intro j h7 h8
          exact (Hit.text?_closing_of_ne _ _ h7).trans (hnoted.others j h8)
  · have hsign : (Regex.sign ':').hits h = [] := by rw [hits_sign, if_neg hcolon]
    have hnone : DateScan.second? h.cursor.rest = none := by
      cases hrest : h.cursor.rest with
      | nil => rfl
      | cons c cs =>
          have hc : c ≠ ':' := by simpa [hrest] using hcolon
          rw [DateScan.second?, if_neg hc]
    rw [hits_seq_of_eq_nil hsign, hnone]
    exact ⟨h, rfl, id, fun j _ _ => rfl⟩

/-- No digit is in a gap, so the digits of the hour are looked for at the end of the gap only. -/
theorem hits_concat_gap {gap : CharClass} (hgap : ∀ c, gap.has c = true → c.isDigit = false)
    (rs : List Regex) (h : Hit) :
    (concat (.rep (.char gap) 1 none true :: .group 5 (.digits 1 (some 2)) :: rs)).hits h =
      if 1 ≤ gap.run h.cursor then
        (concat (.group 5 (.digits 1 (some 2)) :: rs)).hits (h.advance (gap.run h.cursor))
      else [] := by
  -- Wherever a character of the gap was given back, no digit follows.
  have hblocked : ∀ n < gap.run h.cursor,
      (Regex.group 5 (.digits 1 (some 2))).hits (h.advance n) = [] := by
    intro n hn
    rcases DateScan.exists_head?_drop hn with ⟨c, hc, hhas⟩
    have hrun : CharClass.digit.run (h.advance n).cursor = 0 := by
      refine CharClass.run_eq_zero (c := c) (by simpa using hc) ?_
      rw [CharClass.has_digit]
      exact hgap c hhas
    have hreach := CharClass.digit.reach_le_run (some 2) (h.advance n).cursor
    rw [hits_group, Regex.digits, hits_run (by simp) (by simp), if_neg (by omega), List.map_nil]
  have hmatch : ((Regex.rep (.char gap) 1 none true).hits h).flatMap
        (Regex.group 5 (.digits 1 (some 2))).hits =
      if 1 ≤ gap.run h.cursor then
        (Regex.group 5 (.digits 1 (some 2))).hits (h.advance (gap.run h.cursor))
      else [] :=
    flatMap_hits_run (by simp) (by simp) hblocked
  by_cases hrun : 1 ≤ gap.run h.cursor
  · have hhour : ((Regex.rep (.char gap) 1 none true).seq (.group 5 (.digits 1 (some 2)))).hits h =
        (Regex.group 5 (.digits 1 (some 2))).hits (h.advance (gap.run h.cursor)) := by
      rw [hits, hmatch, if_pos hrun, firsts_hits]
    rw [if_pos hrun]
    exact hits_foldl_seq_congr hhour rs
  · have hhour : ((Regex.rep (.char gap) 1 none true).seq (.group 5 (.digits 1 (some 2)))).hits h =
        [] := by
      rw [hits, hmatch, if_neg hrun]
      rfl
    rw [if_neg hrun]
    exact hits_foldl_seq_of_eq_nil hhour rs

/-- The hit of minutes and seconds remembers the digits that are scanned. -/
theorem head?_hits_minute (h : Hit) :
    match DateScan.run? 1 (some 2) h.cursor.rest with
    | none => (((Regex.group 6 (.digits 1 (some 2))).seq seconds).hits h).head? = none
    | some (minute, rest) => ∃ q,
        (((Regex.group 6 (.digits 1 (some 2))).seq seconds).hits h).head? = some q ∧
          q.captures.text? 6 = some minute ∧
            (h.captures.text? 8 = none → q.captures.text? 8 = DateScan.second? rest) ∧
              ∀ j < 6, q.captures.text? j = h.captures.text? j := by
  have hminute : ((Regex.group 6 (.digits 1 (some 2))).hits h).head? = _ :=
    head?_hits_digits 6 (by simp) (by simp) h
  cases hrun : DateScan.run? 1 (some 2) h.cursor.rest with
  | none =>
      rw [hrun, Option.map_none, List.head?_eq_none_iff] at hminute
      simp [hits_seq_of_eq_nil hminute]
  | some p =>
      rcases p with ⟨minute, rest⟩
      rw [hrun, Option.map_some] at hminute
      have hnoted := Hit.noted_of_run? hrun 6
      -- The seconds match in any case, so the longest run of minutes is preferred.
      rcases head?_hits_seconds (h.note 6 minute.length) with ⟨q, hq, hsecond, hothers⟩
      have hne : seconds.hits (h.note 6 minute.length) ≠ [] := hits_optional_ne_nil _ _
      refine ⟨q, (head?_hits_seq hminute hne).trans hq, ?_, ?_, ?_⟩
      · exact (hothers 6 (by decide) (by decide)).trans hnoted.text
      · intro hnone
        rw [hsecond ((hnoted.others 8 (by decide)).trans hnone), hnoted.rest]
      · intro j hj
        exact (hothers j (by omega) (by omega)).trans (hnoted.others j (by omega))

/-- The hit of a time of day remembers the digits that are scanned. -/
theorem head?_hits_clock {gap : CharClass} (hgap : ∀ c, gap.has c = true → c.isDigit = false)
    (h : Hit) :
    match DateScan.clock? gap.has h.cursor.rest with
    | none => ((clock gap).hits h).head? = none
    | some t => ∃ q, ((clock gap).hits h).head? = some q ∧
        q.captures.text? 5 = some t.hour ∧ q.captures.text? 6 = some t.minute ∧
          (h.captures.text? 8 = none → q.captures.text? 8 = t.second) ∧
            ∀ j < 4, q.captures.text? j = h.captures.text? j := by
  rw [clock, hits_concat_gap hgap, DateScan.clock?]
  by_cases hrun : 1 ≤ gap.run h.cursor
  · have hblank : h.cursor.rest.takeWhile gap.has ≠ [] := List.ne_nil_of_length_pos hrun
    have hrest : (h.advance (gap.run h.cursor)).cursor.rest = h.cursor.rest.dropWhile gap.has :=
      gap.rest_advance_run h.cursor
    rw [if_pos hrun, if_neg hblank, hits_concat_field 5 (by decide) (by decide), hrest]
    cases hfield : DateScan.field? 1 2 ':' (h.cursor.rest.dropWhile gap.has) with
    | none => rfl
    | some p =>
        rcases p with ⟨hour, rest⟩
        -- From here on it only matters what is left of the text and what group 5 remembers.
        have hnoted := Hit.noted_of_field? (hrest ▸ hfield) 5
        simp only [Option.bind_eq_bind, Option.bind_some]
        generalize ((h.advance (gap.run h.cursor)).note 5 hour.length).advance 1 = q at hnoted ⊢
        have hminute := head?_hits_minute q
        rw [hnoted.rest] at hminute
        cases hrun' : DateScan.run? 1 (some 2) rest with
        | none =>
            rw [hrun'] at hminute
            exact hminute
        | some p' =>
            rcases p' with ⟨minute, rest'⟩
            rw [hrun'] at hminute
            rcases hminute with ⟨q', hq', hminute, hsecond, hothers⟩
            refine ⟨q', hq', ?_, hminute, ?_, ?_⟩
            · exact (hothers 5 (by decide)).trans hnoted.text
            · intro hnone
              exact hsecond ((hnoted.others 8 (by decide)).trans hnone)
            · intro j hj
              exact (hothers j (by omega)).trans (hnoted.others j (by omega))
  · have hblank : h.cursor.rest.takeWhile gap.has = [] :=
      List.eq_nil_of_length_eq_zero (Nat.eq_zero_of_not_pos hrun)
    rw [if_neg hrun, if_pos hblank]
    rfl

/-- The hit of a time of day that may be left out remembers the digits that are scanned. -/
theorem head?_hits_timeBehind {gap : CharClass} (hgap : ∀ c, gap.has c = true → c.isDigit = false)
    (h : Hit) (hnew : ∀ j, 4 ≤ j → h.captures.text? j = none) :
    ∃ q, ((timeBehind gap).hits h).head? = some q ∧
      q.captures.text? 5 = (DateScan.clock? gap.has h.cursor.rest).map (·.hour) ∧
      q.captures.text? 6 = (DateScan.clock? gap.has h.cursor.rest).map (·.minute) ∧
      q.captures.text? 8 = (DateScan.clock? gap.has h.cursor.rest).bind (·.second) ∧
      ∀ j < 4, q.captures.text? j = h.captures.text? j := by
  have hoption : timeBehind gap = .rep (.group 4 (clock gap)) 0 (some 1) true := rfl
  have hclock := head?_hits_clock hgap h
  rw [hoption, head?_hits_optional, hits_group, List.head?_map]
  cases hscan : DateScan.clock? gap.has h.cursor.rest with
  | none =>
      rw [hscan] at hclock
      rw [hclock]
      exact ⟨h, rfl, hnew 5 (by decide), hnew 6 (by decide), hnew 8 (by decide), fun j _ => rfl⟩
  | some t =>
      rw [hscan] at hclock
      rcases hclock with ⟨q, hq, hhour, hminute, hsecond, hothers⟩
      rw [hq]
      refine ⟨.closing 4 h q, rfl, ?_, ?_, ?_, ?_⟩
      · exact (Hit.text?_closing_of_ne h q (by decide)).trans hhour
      · exact (Hit.text?_closing_of_ne h q (by decide)).trans hminute
      · exact (Hit.text?_closing_of_ne h q (by decide)).trans (hsecond (hnew 8 (by decide)))
      · intro j hj
        exact (Hit.text?_closing_of_ne h q (by omega)).trans (hothers j hj)

/-! ## Dates -/

/-- The expression of dates that are written in a given way. -/
def date (l : DateScan.Layout) (gap : CharClass) : Regex :=
  .concat [.assertion .textStart, .group 1 (.digits l.least (some l.most)), .sign l.sign,
    .group 2 (.digits 1 (some 2)), .sign l.sign, .group 3 (.digits l.leastThird l.mostThird),
    .timeBehind gap]

/-- What groups remember of a date. -/
structure Reads (captures : Captures) (f : DateScan.Fields) : Prop where
  first : captures.text? 1 = some f.first
  second : captures.text? 2 = some f.second
  third : captures.text? 3 = some f.third
  hour : captures.text? 5 = f.clock.map (·.hour)
  minute : captures.text? 6 = f.clock.map (·.minute)
  seconds : captures.text? 8 = f.clock.bind (·.second)

/-- The third run of digits and the time of day behind it. -/
theorem head?_hits_third (l : DateScan.Layout) {gap : CharClass} (hgap : gap.has = l.gap) (h : Hit)
    (hnew : ∀ j, 4 ≤ j → h.captures.text? j = none) :
    match DateScan.run? l.leastThird l.mostThird h.cursor.rest with
    | none =>
        (((Regex.group 3 (.digits l.leastThird l.mostThird)).seq (.timeBehind gap)).hits h).head? = none
    | some (third, rest) => ∃ q,
        (((Regex.group 3 (.digits l.leastThird l.mostThird)).seq (.timeBehind gap)).hits h).head? =
            some q ∧
          ∀ first second, h.captures.text? 1 = some first → h.captures.text? 2 = some second →
            Reads q.captures ⟨first, second, third, DateScan.clock? l.gap rest⟩ := by
  have hthird := head?_hits_digits 3 (fun _ => l.third_pos) l.third_le h
  cases hrun : DateScan.run? l.leastThird l.mostThird h.cursor.rest with
  | none =>
      rw [hrun, Option.map_none, List.head?_eq_none_iff] at hthird
      simp [hits_seq_of_eq_nil hthird]
  | some p =>
      rcases p with ⟨third, rest⟩
      rw [hrun, Option.map_some] at hthird
      have hnoted := Hit.noted_of_run? hrun 3
      -- A time of day may be left out, so the longest third run is preferred.
      obtain ⟨q, hq, hhour, hminute, hsecond, hothers⟩ := head?_hits_timeBehind
        (hgap ▸ l.gap_not_digit) (h.note 3 third.length)
        fun j hj => (hnoted.others j (by omega)).trans (hnew j hj)
      rw [hnoted.rest, hgap] at hhour hminute hsecond
      refine ⟨q, (head?_hits_seq hthird (hits_optional_ne_nil _ _)).trans hq,
        fun first second h1 h2 => ⟨?_, ?_, ?_, hhour, hminute, hsecond⟩⟩
      · calc
          q.captures.text? 1 = (h.note 3 third.length).captures.text? 1 := hothers 1 (by decide)
          _ = h.captures.text? 1 := hnoted.others 1 (by decide)
          _ = some first := h1
      · calc
          q.captures.text? 2 = (h.note 3 third.length).captures.text? 2 := hothers 2 (by decide)
          _ = h.captures.text? 2 := hnoted.others 2 (by decide)
          _ = some second := h2
      · exact (hothers 3 (by decide)).trans hnoted.text

/-- A text matches the expression of dates if it begins with one, and then the groups remember what is
scanned. -/
theorem find?_date (l : DateScan.Layout) {gap : CharClass} (hgap : gap.has = l.gap) (cs : List Char) :
    match DateScan.fields? l cs with
    | none => (date l gap).find? cs = none
    | some f => ∃ q, (date l gap).find? cs = some q ∧ Reads q.captures f := by
  -- Each run with its sign moves the scan and the match on together.
  have hcs : (Hit.mk (.start cs) []).cursor.rest = cs := rfl
  rw [date, find?_textStart, hits_concat_field 1 l.least_le l.sign_not_digit, hcs, DateScan.fields?]
  cases hfield : DateScan.field? l.least l.most l.sign cs with
  | none => rfl
  | some p =>
      rcases p with ⟨first, rest⟩
      have hnoted := Hit.noted_of_field? (h := ⟨.start cs, []⟩) hfield 1
      simp only [Option.bind_eq_bind, Option.bind_some]
      generalize ((Hit.mk (.start cs) []).note 1 first.length).advance 1 = q at hnoted ⊢
      rw [hits_concat_field 2 (by decide) l.sign_not_digit, hnoted.rest]
      cases hfield' : DateScan.field? 1 2 l.sign rest with
      | none => rfl
      | some p' =>
          rcases p' with ⟨second, rest'⟩
          have hnoted' := Hit.noted_of_field? (hnoted.rest ▸ hfield') 2
          simp only [Option.bind_some]
          generalize (q.note 2 second.length).advance 1 = q' at hnoted' ⊢
          have hthird := head?_hits_third l hgap q' fun j hj =>
            (hnoted'.others j (by omega)).trans (hnoted.others j (by omega))
          rw [hnoted'.rest] at hthird
          cases hrun : DateScan.run? l.leastThird l.mostThird rest' with
          | none =>
              rw [hrun] at hthird
              exact hthird
          | some p'' =>
              rcases p'' with ⟨third, rest''⟩
              rw [hrun] at hthird
              rcases hthird with ⟨q'', hq, hreads⟩
              exact ⟨q'', hq, hreads first second
                ((hnoted'.others 1 (by decide)).trans hnoted.text) hnoted'.text⟩

end Regex
end Pattern
end FormValidation
