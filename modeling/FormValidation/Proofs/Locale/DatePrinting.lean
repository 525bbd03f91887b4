import FormValidation.Calendar.Text
import FormValidation.Proofs.Locale.DateWriting

/-!
# Printed dates

An instant is printed in the international order (`Instant.text`).  With a year of 0 to 9999 that is the
international spelling, and every locale reads the instant again; with any other year the text begins with a
sign, and no locale at hand reads it (`Locale.readDate_printed`).  Such instants are read from other texts: with a
year after 9999 by the locales at hand, with slashes between the numbers, and with a year before 0 by a locale
whose pattern asks for the sign (`Locale.bygone`).
-/

namespace FormValidation

/-! ## Texts that begin with a sign -/

namespace DateScan

theorem field?_cons_of_not_isDigit {least most : Nat} {sign c : Char} (hleast : 0 < least)
    (hc : c.isDigit = false) (cs : List Char) : field? least most sign (c :: cs) = none := by
  simp [field?, hc]
  omega

theorem fields?_cons_of_not_isDigit {l : Layout} (hleast : 0 < l.least) {c : Char} (hc : c.isDigit = false)
    (cs : List Char) : fields? l (c :: cs) = none := by
  rw [fields?, field?_cons_of_not_isDigit hleast hc]
  rfl

/-- Neither the international spelling nor the one with slashes begins with a sign. -/
theorem readDate_cons_of_not_isDigit (order : Order) {c : Char} (hc : c.isDigit = false) (cs : List Char) :
    readDate order (String.ofList (c :: cs)) = .error .noMatch := by
  have hinternational : fields? international (c :: cs) = none :=
    fields?_cons_of_not_isDigit (by decide) hc cs
  have hslashed : fields? slashed (c :: cs) = none := fields?_cons_of_not_isDigit (by decide) hc cs
  simp [readDate, parts?, hinternational, hslashed]

end DateScan

/-! ## Printing -/

namespace Instant

/-- How instants are printed with a year of four digits. -/
def printing : DateScan.DateSpelling DateScan.international where
  month := .two
  day := .two
  time := .toSecond ⟨[' '], by decide, by decide⟩ .two .two .two

theorem text_eq_internationalText {i : Instant} (h : 0 ≤ i.year ∧ i.year ≤ 9999) :
    i.text = printing.internationalText i := by
  have hyear : yearText i.year = Text.padded 4 i.year.toNat := by simp [yearText, h]
  simp [text, hyear, printing, DateScan.DateSpelling.internationalText, DateScan.TimeSpelling.write,
    DateScan.Width.write]

theorem exists_text_eq_cons {i : Instant} (h : ¬(0 ≤ i.year ∧ i.year ≤ 9999)) :
    ∃ sign cs, sign.isDigit = false ∧ i.text = String.ofList (sign :: cs) := by
  have hsign : (if 0 ≤ i.year then '+' else '-').isDigit = false := by
    split <;> decide
  have hyear : yearText i.year = (if 0 ≤ i.year then '+' else '-') :: Text.padded 4 i.year.natAbs := by
    simp [yearText, h]
  exact ⟨_, _, hsign, by rw [text, hyear]; rfl⟩

end Instant

/-! ## Years before 0 -/

namespace Pattern.Regex

open DateScan

/-- Short numbers in groups from `i` on, each with a sign behind it, and what comes last. -/
def numbers (last : Regex) : Nat → List Char → List Regex
  | _, [] => [last]
  | i, sign :: signs => .group i (.digits 1 (some 2)) :: .sign sign :: numbers last (i + 1) signs

theorem exists_numbers_eq_cons (last : Regex) (i : Nat) (signs : List Char) :
    ∃ r rs, numbers last i signs = r :: rs := by
  cases signs <;> exact ⟨_, _, rfl⟩

/-- Numbers with a sign behind each, and what stands behind them. -/
def joined : List (List Char × Char) → List Char → List Char
  | [], rest => rest
  | (digits, sign) :: runs, rest => digits ++ sign :: joined runs rest

/-- Numbers with their signs match in one way, and groups remember them; what comes last decides about the
rest. -/
theorem hits_numbers (last : Regex) {runs : List (List Char × Char)}
    (hruns : ∀ run ∈ runs, IsShort run.1 ∧ run.2.isDigit = false) {rest : List Char} (i : Nat) {h : Hit}
    (hrest : h.cursor.rest = joined runs rest) :
    ∃ q, (concat (numbers last i (runs.map Prod.snd))).hits h = last.hits q ∧ q.cursor.rest = rest ∧
      (∀ k run, runs[k]? = some run → q.captures.text? (i + k) = some run.1) ∧
        ∀ j < i, q.captures.text? j = h.captures.text? j := by
  induction runs generalizing i h with
  | nil => exact ⟨h, rfl, hrest, by simp, fun j _ => rfl⟩
  | cons run runs ih =>
      rcases run with ⟨digits, sign⟩
      obtain ⟨hshort, hsign⟩ := hruns _ List.mem_cons_self
      have hfield : field? 1 2 sign h.cursor.rest = some (digits, joined runs rest) := by
        rw [hrest]
        exact hshort.field?_append hsign _
      have hnoted := Hit.noted_of_field? hfield i
      rcases ih (fun run hrun => hruns run (List.mem_cons_of_mem _ hrun)) (i + 1) hnoted.rest with
        ⟨q, hq, hqrest, htexts, hothers⟩
      rcases exists_numbers_eq_cons last (i + 1) (runs.map Prod.snd) with ⟨r, rs, hnumbers⟩
      refine ⟨q, ?_, hqrest, ?_, ?_⟩
      · rw [List.map_cons, numbers, hnumbers, hits_concat_field i (by decide) hsign, hfield]
        rw [hnumbers] at hq
        exact hq
      · intro k run hrun
        cases k with
        | zero =>
            obtain rfl : (digits, sign) = run := by simpa using hrun
            rw [Nat.add_zero, hothers i (Nat.lt_succ_self i), hnoted.text]
        | succ k =>
            rw [← htexts k run (by simpa using hrun)]
            congr 1
            omega
      · intro j hj
        rw [hothers j (by omega), hnoted.others j (by omega)]

/-- A sign and all digits behind it are remembered together. -/
theorem head?_hits_signed (i : Nat) (sign : Char) {digits : List Char}
    (hdigits : digits.all Char.isDigit = true) (hpos : 0 < digits.length) {h : Hit}
    (hrest : h.cursor.rest = sign :: digits) :
    ∃ q, ((Regex.group i (.concat [.sign sign, .digits 1 none])).hits h).head? = some q ∧
      q.captures.text? i = some (sign :: digits) ∧
        ∀ j, j ≠ i → q.captures.text? j = h.captures.text? j := by
  have hsign : (Regex.sign sign).hits h = [h.advance 1] := by
    rw [hits_sign, if_pos (by rw [hrest]; rfl)]
  have hconcat : Regex.concat [.sign sign, .digits 1 none] = (Regex.sign sign).seq (.digits 1 none) := rfl
  have hreach : CharClass.digit.reach none (h.advance 1).cursor = digits.length := by
    have hall : digits.takeWhile Char.isDigit = digits := List.takeWhile_eq_self_iff.2 (List.all_eq_true.1 hdigits)
    rw [CharClass.reach_digit, DateScan.reach, Hit.cursor_advance, Cursor.rest_advance, hrest]
    simp [hall]
  refine ⟨h.note i (digits.length + 1), ?_, ?_, fun j hj => Hit.text?_note_of_ne _ _ hj⟩
  · rw [hits_group, List.head?_map, hconcat, hits_seq_of_eq_singleton hsign, Regex.digits,
      head?_hits_run (by simp) (by simp), hreach, if_pos (Nat.succ_le_of_lt hpos), Hit.advance_advance, Nat.add_comm]
    rfl
  · rw [Hit.text?_note i (by rw [hrest]; simp), hrest]
    simp

/-- Day, month, time of day, and a year before 0. -/
def bygoneDate : Regex :=
  .concat (.assertion .textStart ::
    numbers (.group 6 (.concat [.sign '-', .digits 1 none])) 1 ['/', '/', ':', ':', ' '])

end Pattern.Regex

namespace DateFormat

def bygoneSource : String :=
  "^([0-9]\x7b1,2\x7d)/([0-9]\x7b1,2\x7d)/([0-9]\x7b1,2\x7d):([0-9]\x7b1,2\x7d):([0-9]\x7b1,2\x7d) (-[0-9]+)"

theorem read?_bygoneSource : Pattern.read? bygoneSource = some ⟨bygoneSource, .bygoneDate⟩ := by
  decide +kernel

/-- Day, month, time of day, and a year before 0. -/
def bygone : DateFormat where
  pattern := ⟨bygoneSource, .bygoneDate⟩
  groups := { day := 1, month := 2, hour := some 3, minute := some 4, second := some 5, year := 6 }

end DateFormat

/-- A locale for dates before the year 0. -/
def Locale.bygone : Locale where
  name := "bygone"
  dateFormat := .bygone
  decimalSeparator := '.'

theorem Locale.create_bygone :
    Locale.create "bygone" DateFormat.bygoneSource DateFormat.bygone.groups '.' = .ok .bygone := by
  rw [Locale.create, DateFormat.read?_bygoneSource]
  rfl

namespace Instant

open DateScan Pattern.Regex

/-- The numbers of an instant besides the year, and the signs behind them. -/
def bygoneRuns (i : Instant) : List (List Char × Char) :=
  [(Text.padded 2 i.day, '/'), (Text.padded 2 i.month, '/'), (Text.padded 2 i.hour, ':'),
    (Text.padded 2 i.minute, ':'), (Text.padded 2 i.second, ' ')]

/-- An instant before the year 0, with the year at its end. -/
def bygoneText (i : Instant) : String :=
  String.ofList (joined i.bygoneRuns ('-' :: Text.padded 4 i.year.natAbs))

end Instant

namespace DateScan

/-- The numbers of a real instant are short. -/
theorem isShort_of_mem_bygoneRuns {i : Instant} (h : i.IsReal) :
    ∀ run ∈ i.bygoneRuns, IsShort run.1 ∧ run.2.isDigit = false := by
  have hshort : ∀ n, n < 100 → IsShort (Text.padded 2 n) := fun n hn => Width.two.isShort_write hn
  have hday := hshort i.day (DateSpelling.day_lt h)
  have hmonth := hshort i.month (Nat.lt_of_le_of_lt h.month_le (by decide))
  have hhour := hshort i.hour (Nat.lt_of_le_of_lt h.hour_le (by decide))
  have hminute := hshort i.minute (Nat.lt_of_le_of_lt h.minute_le (by decide))
  have hsecond := hshort i.second (Nat.lt_of_le_of_lt h.second_le (by decide))
  intro run hrun
  simp only [Instant.bygoneRuns, List.mem_cons, List.not_mem_nil, or_false] at hrun
  rcases hrun with rfl | rfl | rfl | rfl | rfl
  · exact ⟨hday, rfl⟩
  · exact ⟨hmonth, rfl⟩
  · exact ⟨hhour, rfl⟩
  · exact ⟨hminute, rfl⟩
  · exact ⟨hsecond, rfl⟩

theorem number_negative (width : Nat) {n : Nat} (h : n ≤ 9223372036854775807) :
    number ('-' :: Text.padded width n) = .ok (-(n : Int)) := by
  have hfits : Text.fitsSigned64 (-(n : Int)) = true := by
    simp only [Text.fitsSigned64, Bool.and_eq_true, decide_eq_true_eq]
    omega
  have hsigned : Text.signed64? ('-' :: Text.padded width n) = some (-(n : Int)) := by
    rw [Text.signed64?, Text.integer?, Text.natural?_padded]
    exact Option.filter_some_pos hfits
  simp only [number, hsigned]

end DateScan

/-- The groups of the pattern remember the numbers of the instant. -/
theorem DateFormat.match?_bygone {i : Instant} (h : i.IsReal) :
    ∃ captures, bygone.match? i.bygoneText = some (captures, bygone.groups) ∧
      (∀ k run, i.bygoneRuns[k]? = some run → captures.text? (1 + k) = some run.1) ∧
        captures.text? 6 = some ('-' :: Text.padded 4 i.year.natAbs) := by
  let start : Pattern.Hit := ⟨.start i.bygoneText.toList, []⟩
  let last : Pattern.Regex := .group 6 (.concat [.sign '-', .digits 1 none])
  have hrest : start.cursor.rest =
      Pattern.Regex.joined i.bygoneRuns ('-' :: Text.padded 4 i.year.natAbs) := by
    show i.bygoneText.toList = _
    rw [Instant.bygoneText, String.toList_ofList]
  rcases Pattern.Regex.hits_numbers last (DateScan.isShort_of_mem_bygoneRuns h) 1 hrest with
    ⟨q, hq, hqrest, htexts, -⟩
  -- Of the year any number of digits would match; the first hit takes them all.
  rcases Pattern.Regex.head?_hits_signed 6 '-' (Text.all_isDigit_padded 4 _) (Text.length_padded_pos 4 _)
    hqrest with ⟨q', hq', hyear, hothers⟩
  have hfind : bygone.pattern.regex.find? i.bygoneText.toList = some q' := by
    show (Pattern.Regex.concat (.assertion .textStart :: Pattern.Regex.numbers last 1 _)).find? _ = _
    rw [Pattern.Regex.numbers, Pattern.Regex.find?_textStart]
    exact (congrArg List.head? hq).trans hq'
  refine ⟨q'.captures, ?_, ?_, hyear⟩
  · simp [match?, Pattern.captures?, hfind]
  · intro k run hrun
    have hk : k < 5 := (List.getElem?_eq_some_iff.1 hrun).1
    rw [hothers (1 + k) (by omega)]
    exact htexts k run hrun

/-- The components of the instant are those that the groups remember. -/
theorem DateParts.ofCaptures_bygone {i : Instant} (h : i.IsReal) (hrange : Calendar.yearInRange i.year = true)
    (hyear : i.year < 0) {captures : Pattern.Captures}
    (htexts : ∀ k run, i.bygoneRuns[k]? = some run → captures.text? (1 + k) = some run.1)
    (hlast : captures.text? 6 = some ('-' :: Text.padded 4 i.year.natAbs)) :
    ofCaptures DateFormat.bygone.groups captures = .ok i.parts := by
  have hnumber : ∀ n, n < 100 → DateScan.number (Text.padded 2 n) = .ok (n : Int) :=
    fun n hn => DateScan.Width.two.number_write hn
  have hlastNumber : DateScan.number ('-' :: Text.padded 4 i.year.natAbs) = .ok i.year := by
    simp only [Calendar.yearInRange, Bool.and_eq_true, decide_eq_true_eq] at hrange
    have habs : -(i.year.natAbs : Int) = i.year := by omega
    rw [DateScan.number_negative 4 (by omega), habs]
  have hoptional : ∀ (k : Nat) (sign : Char) (n : Nat), i.bygoneRuns[k]? = some (Text.padded 2 n, sign) →
      n < 100 → optional captures (some (1 + k)) = .ok (some (n : Int)) := by
    intro k sign n hrun hn
    rw [optional_eq, htexts k _ hrun]
    simp only [hnumber n hn]
    rfl
  have hday : required captures 1 = .ok (i.day : Int) :=
    (required_eq (htexts 0 _ rfl)).trans (hnumber i.day (DateScan.DateSpelling.day_lt h))
  have hmonth : required captures 2 = .ok (i.month : Int) :=
    (required_eq (htexts 1 _ rfl)).trans (hnumber i.month (Nat.lt_of_le_of_lt h.month_le (by decide)))
  have hhour : optional captures (some 3) = .ok (some (i.hour : Int)) :=
    hoptional 2 ':' i.hour rfl (Nat.lt_of_le_of_lt h.hour_le (by decide))
  have hminute : optional captures (some 4) = .ok (some (i.minute : Int)) :=
    hoptional 3 ':' i.minute rfl (Nat.lt_of_le_of_lt h.minute_le (by decide))
  have hsecond : optional captures (some 5) = .ok (some (i.second : Int)) :=
    hoptional 4 ' ' i.second rfl (Nat.lt_of_le_of_lt h.second_le (by decide))
  simp only [ofCaptures, DateFormat.bygone, required_eq hlast, hlastNumber, hmonth, hday, hhour, hminute, hsecond]
  rfl

/-- The instant is read again. -/
theorem Locale.readDate_bygone {i : Instant} (h : i.IsReal) (hrange : Calendar.yearInRange i.year = true)
    (hyear : i.year < 0) : Locale.bygone.readDate i.bygoneText = .ok i := by
  -- The international spelling is tried first, and has no slash behind its first number.
  have hday : '-' ∉ Text.padded 2 i.day :=
    DateScan.not_mem_of_all_isDigit (Text.all_isDigit_padded 2 i.day) (by decide)
  have hinternational : DateFormat.international.match? i.bygoneText = none := by
    rw [DateFormat.match?_international_eq_none_iff, Instant.bygoneText, String.toList_ofList]
    exact DateScan.fields?_international_slash hday _
  rcases DateFormat.match?_bygone h with ⟨captures, hmatch, htexts, hlast⟩
  have hbygone : Locale.bygone.dateFormat.match? i.bygoneText = some (captures, DateFormat.bygone.groups) :=
    hmatch
  rw [readDate, hinternational, hbygone, Option.none_or]
  simp only [DateParts.ofCaptures_bygone h hrange hyear htexts hlast]
  exact Instant.instant_parts h hrange

/-! ## Reading printed dates -/

namespace Locale

open DateScan

theorem readDate_builtIn {l : Locale} (hl : l ∈ builtIn) :
    ∃ order, ∀ text, l.readDate text = DateScan.readDate order text := by
  simp only [builtIn, List.mem_cons, List.not_mem_nil, or_false] at hl
  rcases hl with rfl | rfl | rfl
  · exact ⟨.monthFirst, readDate_of_slashed .monthFirst rfl rfl⟩
  · exact ⟨.monthFirst, readDate_of_slashed .monthFirst rfl rfl⟩
  · exact ⟨.dayFirst, readDate_of_slashed .dayFirst rfl rfl⟩

/-- A real instant with a year of 0 to 9999 is read again by every locale when it is printed.  With any other
year what is printed is no date for the locales at hand, though all of them read the instant, if it is after the
year 9999, when it is written with slashes, and a locale whose pattern asks for the sign of a year reads it if it
is before the year 0. -/
theorem readDate_printed {i : Instant} (hreal : i.IsReal) (hrange : Calendar.yearInRange i.year = true) :
    (0 ≤ i.year ∧ i.year ≤ 9999 → ∀ l : Locale, l.readDate i.text = .ok i) ∧
    (¬(0 ≤ i.year ∧ i.year ≤ 9999) →
      (∀ l ∈ builtIn, l.readDate i.text = .error .noMatch) ∧
      (0 ≤ i.year → ∀ l ∈ builtIn, ∃ text, l.readDate text = .ok i) ∧
      (i.year < 0 → create "bygone" DateFormat.bygoneSource DateFormat.bygone.groups '.' = .ok bygone ∧
        ∃ text, bygone.readDate text = .ok i)) := by
  refine ⟨?_, ?_⟩
  · rintro ⟨hpos, hyear⟩ l
    have hfields := Instant.printing.fields?_internationalText hreal hyear
    rw [Instant.text_eq_internationalText ⟨hpos, hyear⟩, readDate_of_international l hfields]
    exact Instant.printing.instant_write hreal hrange (number_year hpos hrange 4)
  · intro hyear
    refine ⟨?_, ?_, ?_⟩
    · intro l hl
      rcases Instant.exists_text_eq_cons hyear with ⟨sign, cs, hsign, htext⟩
      rcases readDate_builtIn hl with ⟨order, hread⟩
      rw [htext, hread, readDate_cons_of_not_isDigit order hsign]
    · intro hpos l hl
      rcases readDate_builtIn hl with ⟨order, hread⟩
      let spelling : DateSpelling slashed :=
        ⟨.two, .two, .toSecond ⟨[' '], by decide, by decide⟩ .two .two .two⟩
      have hscan := spelling.readDate_slashedText order (Nat.le_refl 4) hreal hpos hrange
      exact ⟨_, (hread _).trans hscan⟩
    · intro hneg
      exact ⟨create_bygone, _, readDate_bygone hreal hrange hneg⟩

/-- The last second of a leap day, and the Ides of March of the year -43. -/
theorem readDate_printed_leapDay :
    fr.readDate "2024-02-29 23:59:59" = .ok ⟨2024, 2, 29, 23, 59, 59⟩ ∧
      fr.readDate "-0043-03-15 00:00:00" = .error .noMatch := by
  have hreal : Instant.IsReal ⟨2024, 2, 29, 23, 59, 59⟩ := by decide
  have hides : Instant.IsReal ⟨-43, 3, 15, 0, 0, 0⟩ := by decide
  have hfr : fr ∈ builtIn := by simp [builtIn]
  exact ⟨(readDate_printed hreal rfl).1 (by decide) fr,
    ((readDate_printed hides rfl).2 (by decide)).1 fr hfr⟩

end Locale
end FormValidation
