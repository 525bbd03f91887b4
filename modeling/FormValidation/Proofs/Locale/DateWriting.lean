import FormValidation.Proofs.Calendar.Components
import FormValidation.Proofs.Locale.DateReading
import FormValidation.Proofs.Text.Numeral
import FormValidation.Proofs.Text.Pieces

/-!
# Reading dates that were written

A real instant may be written in many ways: numbers with or without a zero before them, the time of day
with or without seconds, or not at all (`DateSpelling`).  However it is written, it is read again
(`Locale.readDate_text`), by the locales at hand if slashes stand between the numbers and by every locale
if it is written in the international way.

* `fields?_append` — digits with the signs of a layout between them are scanned as they stand;
* `parts_write` — the digits of an instant spell its components.
-/

namespace FormValidation
namespace DateScan

/-! ## Scanning what was written -/

/-- One or two digits. -/
structure IsShort (digits : List Char) : Prop where
  all_isDigit : digits.all Char.isDigit = true
  pos : 1 ≤ digits.length
  le : digits.length ≤ 2

theorem not_mem_of_all_isDigit {digits : List Char} (h : digits.all Char.isDigit = true) {c : Char}
    (hc : c.isDigit = false) : c ∉ digits := by
  intro hmem
  have hdigit : c.isDigit = true := List.all_eq_true.1 h c hmem
  simp [hc] at hdigit

theorem run?_append {least : Nat} {most : Option Nat} {digits rest : List Char}
    (hdigits : digits.all Char.isDigit = true) (hleast : least ≤ digits.length)
    (hmost : ∀ m ∈ most, digits.length ≤ m) (hrest : ∀ c ∈ rest.head?, c.isDigit = false) :
    run? least most (digits ++ rest) = some (digits, rest) := by
  have htake : (digits ++ rest).takeWhile Char.isDigit = digits :=
    (Text.takeWhile_append_of_head? (List.all_eq_true.1 hdigits) hrest).1
  cases most with
  | none => simp [run?, htake, hleast]
  | some m =>
      have hm : digits.take m = digits := List.take_of_length_le (hmost m rfl)
      simp [run?, htake, hm, hleast]

theorem IsShort.run?_append {digits rest : List Char} (h : IsShort digits)
    (hrest : ∀ c ∈ rest.head?, c.isDigit = false) :
    run? 1 (some 2) (digits ++ rest) = some (digits, rest) := by
  refine DateScan.run?_append h.all_isDigit h.pos ?_ hrest
  intro m hm
  rcases Option.mem_some_iff.1 hm with rfl
  exact h.le

theorem IsShort.run?_self {digits : List Char} (h : IsShort digits) :
    run? 1 (some 2) digits = some (digits, []) := by
  have hend : ∀ c ∈ ([] : List Char).head?, c.isDigit = false := by simp
  simpa using h.run?_append hend

theorem IsShort.field?_append {sign : Char} (hsign : sign.isDigit = false) {digits : List Char}
    (h : IsShort digits) (rest : List Char) :
    field? 1 2 sign (digits ++ sign :: rest) = some (digits, rest) := by
  rw [field?_append_cons hsign (not_mem_of_all_isDigit h.all_isDigit hsign),
    if_pos ⟨h.all_isDigit, h.pos, h.le⟩]

/-- Digits with the signs of a layout between them are scanned as they stand. -/
theorem fields?_append (l : Layout) {first second third tail : List Char}
    (hfirst : first.all Char.isDigit = true ∧ l.least ≤ first.length ∧ first.length ≤ l.most)
    (hsecond : IsShort second)
    (hthird : third.all Char.isDigit = true ∧ l.leastThird ≤ third.length ∧
      ∀ m ∈ l.mostThird, third.length ≤ m)
    (htail : ∀ c ∈ tail.head?, c.isDigit = false) :
    fields? l (first ++ l.sign :: (second ++ l.sign :: (third ++ tail))) =
      some ⟨first, second, third, clock? l.gap tail⟩ := by
  have hsign : l.sign ∉ first := not_mem_of_all_isDigit hfirst.1 l.sign_not_digit
  have hone : field? l.least l.most l.sign
      (first ++ l.sign :: (second ++ l.sign :: (third ++ tail))) =
        some (first, second ++ l.sign :: (third ++ tail)) := by
    rw [field?_append_cons l.sign_not_digit hsign, if_pos hfirst]
  have htwo : field? 1 2 l.sign (second ++ l.sign :: (third ++ tail)) =
      some (second, third ++ tail) :=
    hsecond.field?_append l.sign_not_digit _
  have hthree : run? l.leastThird l.mostThird (third ++ tail) = some (third, tail) :=
    run?_append hthird.1 hthird.2.1 hthird.2.2 htail
  simp only [fields?, hone, htwo, hthree, Option.bind_eq_bind, Option.bind_some, Option.pure_def]

/-! ## Writing numbers -/

/-- How a number below 100 is written. -/
inductive Width where
  /-- With as few digits as it needs. -/
  | least
  /-- With two digits. -/
  | two

/-- The digits of a number. -/
def Width.write : Width → Nat → List Char
  | .least, n => Text.padded 1 n
  | .two, n => Text.padded 2 n

theorem Width.isShort_write (w : Width) {n : Nat} (h : n < 100) : IsShort (w.write n) := by
  have hpos := Text.length_padded_pos
  cases w with
  | least =>
      exact ⟨Text.all_isDigit_padded 1 n, hpos 1 n, Text.length_padded_le (by decide) (by decide) h⟩
  | two =>
      exact ⟨Text.all_isDigit_padded 2 n, hpos 2 n, Text.length_padded_le (by decide) (by decide) h⟩

theorem number_padded (width : Nat) {n : Nat} (h : n ≤ 9223372036854775807) :
    number (Text.padded width n) = .ok (n : Int) := by
  simp only [number, Text.signed64?_padded width h]

theorem Width.number_write (w : Width) {n : Nat} (h : n < 100) : number (w.write n) = .ok (n : Int) := by
  have hfits : n ≤ 9223372036854775807 := by omega
  cases w with
  | least => exact number_padded 1 hfits
  | two => exact number_padded 2 hfits

/-! ## Writing times of day -/

/-- What stands before a time of day, which is at least one character. -/
structure Gap (l : Layout) where
  text : List Char
  text_ne_nil : text ≠ [] := by decide
  text_all : text.all l.gap = true := by decide

/-- How a time of day is written behind a date. -/
inductive TimeSpelling (l : Layout) where
  | omitted
  | toMinute (gap : Gap l) (hour minute : Width)
  | toSecond (gap : Gap l) (hour minute second : Width)

namespace TimeSpelling

variable {l : Layout}

/-- The time of day of an instant, in digits. -/
def clock? : TimeSpelling l → Instant → Option Clock
  | .omitted, _ => none
  | .toMinute _ hour minute, i => some ⟨hour.write i.hour, minute.write i.minute, none⟩
  | .toSecond _ hour minute second, i =>
      some ⟨hour.write i.hour, minute.write i.minute, some (second.write i.second)⟩

/-- The time of day of an instant, with what stands before it. -/
def write : TimeSpelling l → Instant → List Char
  | .omitted, _ => []
  | .toMinute gap hour minute, i => gap.text ++ (hour.write i.hour ++ ':' :: minute.write i.minute)
  | .toSecond gap hour minute second, i =>
      gap.text ++ (hour.write i.hour ++ ':' :: (minute.write i.minute ++ ':' :: second.write i.second))

/-- The instant that is written: the parts that are omitted are none. -/
def written : TimeSpelling l → Instant → Instant
  | .omitted, i => { i with hour := 0, minute := 0, second := 0 }
  | .toMinute _ _ _, i => { i with second := 0 }
  | .toSecond _ _ _ _, i => i

theorem isReal_written (t : TimeSpelling l) {i : Instant} (h : i.IsReal) : (t.written i).IsReal := by
  rcases h with ⟨hmonth, hmonth', hday, hday', hhour, hminute, hsecond⟩
  cases t with
  | omitted => exact ⟨hmonth, hmonth', hday, hday', Nat.zero_le _, Nat.zero_le _, Nat.zero_le _⟩
  | toMinute gap hour minute => exact ⟨hmonth, hmonth', hday, hday', hhour, hminute, Nat.zero_le _⟩
  | toSecond gap hour minute second =>
      exact ⟨hmonth, hmonth', hday, hday', hhour, hminute, hsecond⟩

@[simp] theorem year_written (t : TimeSpelling l) (i : Instant) : (t.written i).year = i.year := by
  cases t <;> rfl

/-- A gap ends where the hour begins. -/
theorem clock?_gap_append (gap : Gap l) {hour : List Char} (hhour : IsShort hour) (rest : List Char) :
    DateScan.clock? l.gap (gap.text ++ (hour ++ ':' :: rest)) = do
      let (minute, rest) ← run? 1 (some 2) rest
      return ⟨hour, minute, second? rest⟩ := by
  have hhead : ∀ c ∈ (hour ++ ':' :: rest).head?, l.gap c = false := by
    intro c hc
    have hmem : c ∈ hour := by
      cases hour with
      | nil => exact absurd hhour.pos (by decide)
      | cons d digits =>
          rcases Option.mem_some_iff.1 hc with rfl
          exact List.mem_cons_self
    have hdigit : c.isDigit = true := List.all_eq_true.1 hhour.all_isDigit c hmem
    -- No character of a gap is a digit.
    rw [Bool.eq_false_iff]
    intro hgap
    simp [l.gap_not_digit c hgap] at hdigit
  rcases Text.takeWhile_append_of_head? (List.all_eq_true.1 gap.text_all) hhead with ⟨htake, hdrop⟩
  rw [DateScan.clock?, htake, if_neg gap.text_ne_nil, hdrop,
    hhour.field?_append (by decide) rest]
  rfl

/-- A time of day is scanned as it was written. -/
theorem clock?_write (t : TimeSpelling l) {i : Instant} (h : i.IsReal) :
    DateScan.clock? l.gap (t.write i) = t.clock? i := by
  have hshort : ∀ (w : Width) {n : Nat}, n ≤ 59 → IsShort (w.write n) :=
    fun w n hn => w.isShort_write (Nat.lt_of_le_of_lt hn (by decide))
  have hhour : i.hour ≤ 59 := h.hour_le.trans (by decide)
  cases t with
  | omitted => rfl
  | toMinute gap hour minute =>
      have hrun : run? 1 (some 2) (minute.write i.minute) = some (minute.write i.minute, []) :=
        (hshort minute h.minute_le).run?_self
      rw [write, clock?_gap_append gap (hshort hour hhour), hrun]
      rfl
  | toSecond gap hour minute second =>
      have hrun : run? 1 (some 2) (minute.write i.minute ++ ':' :: second.write i.second) =
          some (minute.write i.minute, ':' :: second.write i.second) :=
        (hshort minute h.minute_le).run?_append (by simp)
      have hsecond : second? (':' :: second.write i.second) = some (second.write i.second) := by
        simp only [second?, (hshort second h.second_le).run?_self, if_true, Option.map_some]
      rw [write, clock?_gap_append gap (hshort hour hhour), hrun]
      simp only [Option.bind_eq_bind, Option.bind_some, hsecond]
      rfl

/-- What stands behind a date is no digit. -/
theorem head?_write (t : TimeSpelling l) (i : Instant) :
    ∀ c ∈ (t.write i).head?, c.isDigit = false := by
  have hgap : ∀ (gap : Gap l) (rest : List Char), ∀ c ∈ (gap.text ++ rest).head?, c.isDigit = false := by
    intro gap rest c hc
    rcases gap with ⟨text, hne, hall⟩
    cases text with
    | nil => exact absurd rfl hne
    | cons d text =>
        rcases Option.mem_some_iff.1 hc with rfl
        exact l.gap_not_digit _ (List.all_eq_true.1 hall _ List.mem_cons_self)
  cases t with
  | omitted => simp [write]
  | toMinute gap hour minute => exact hgap gap _
  | toSecond gap hour minute second => exact hgap gap _

end TimeSpelling

/-! ## Writing dates -/

/-- How a date is written, besides the year and the order of the numbers. -/
structure DateSpelling (l : Layout) where
  month : Width
  day : Width
  time : TimeSpelling l

namespace DateSpelling

/-- An instant with slashes between the numbers and a year of the given width at least. -/
def slashedText (s : DateSpelling slashed) (order : Order) (width : Nat) (i : Instant) : String :=
  let year := Text.padded width i.year.toNat ++ s.time.write i
  String.ofList <|
    match order with
    | .monthFirst => s.month.write i.month ++ '/' :: (s.day.write i.day ++ '/' :: year)
    | .dayFirst => s.day.write i.day ++ '/' :: (s.month.write i.month ++ '/' :: year)

/-- An instant in the international spelling, with a year of four digits. -/
def internationalText (s : DateSpelling international) (i : Instant) : String :=
  String.ofList <|
    Text.padded 4 i.year.toNat ++ '-' ::
      (s.month.write i.month ++ '-' :: (s.day.write i.day ++ s.time.write i))

variable {l : Layout} {i : Instant}

theorem isShort_month (s : DateSpelling l) (h : i.IsReal) : IsShort (s.month.write i.month) :=
  s.month.isShort_write (Nat.lt_of_le_of_lt h.month_le (by decide))

theorem day_lt (h : i.IsReal) : i.day < 100 := by
  have hle := h.day_le
  unfold Calendar.gregorianDays at hle
  repeat' split at hle
  all_goals omega

theorem isShort_day (s : DateSpelling l) (h : i.IsReal) : IsShort (s.day.write i.day) :=
  s.day.isShort_write (day_lt h)

/-- The digits of an instant spell its components. -/
theorem parts_write (s : DateSpelling l) (h : i.IsReal) {year : List Char}
    (hyear : number year = .ok i.year) :
    parts year (s.month.write i.month) (s.day.write i.day) (s.time.clock? i) =
      .ok (s.time.written i).parts := by
  have hmonth : number (s.month.write i.month) = .ok (i.month : Int) :=
    s.month.number_write (Nat.lt_of_le_of_lt h.month_le (by decide))
  have hday : number (s.day.write i.day) = .ok (i.day : Int) := s.day.number_write (day_lt h)
  have htime : ∀ (w : Width) {n : Nat}, n ≤ 59 → number (w.write n) = .ok (n : Int) :=
    fun w n hn => w.number_write (Nat.lt_of_le_of_lt hn (by decide))
  have hhour : i.hour ≤ 59 := h.hour_le.trans (by decide)
  rw [parts, hyear, hmonth, hday]
  cases s.time with
  | omitted => rfl
  | toMinute gap hour minute =>
      simp only [TimeSpelling.clock?, htime hour hhour, htime minute h.minute_le]
      rfl
  | toSecond gap hour minute second =>
      simp only [TimeSpelling.clock?, htime hour hhour, htime minute h.minute_le,
        htime second h.second_le]
      rfl

/-- The digits of an instant spell what was written of it. -/
theorem instant_write (s : DateSpelling l) (h : i.IsReal) (hrange : Calendar.yearInRange i.year = true)
    {year : List Char} (hyear : number year = .ok i.year) :
    (parts year (s.month.write i.month) (s.day.write i.day) (s.time.clock? i) >>=
      DateParts.instant) = .ok (s.time.written i) := by
  have hinstant : (s.time.written i).parts.instant = .ok (s.time.written i) :=
    Instant.instant_parts (s.time.isReal_written h) (by rw [TimeSpelling.year_written, hrange])
  rw [parts_write s h hyear]
  exact hinstant

end DateSpelling

/-! ## Reading dates again -/

theorem number_year {year : Int} (hpos : 0 ≤ year) (hrange : Calendar.yearInRange year = true)
    (width : Nat) : number (Text.padded width year.toNat) = .ok year := by
  simp only [Calendar.yearInRange, Bool.and_eq_true, decide_eq_true_eq] at hrange
  have hfits : year.toNat ≤ 9223372036854775807 := by omega
  rw [number_padded width hfits, Int.toNat_of_nonneg hpos]

/-- Numbers before a slash are those of no date in the international spelling. -/
theorem fields?_slashed_append {first second year tail : List Char} (hfirst : IsShort first)
    (hsecond : IsShort second) (hyear : year.all Char.isDigit = true) (hwidth : 4 ≤ year.length)
    (htail : ∀ c ∈ tail.head?, c.isDigit = false) :
    let text := first ++ '/' :: (second ++ '/' :: (year ++ tail))
    fields? international text = none ∧
      fields? slashed text = some ⟨first, second, year, clock? slashed.gap tail⟩ := by
  have hhyphen : '-' ∉ first := not_mem_of_all_isDigit hfirst.all_isDigit (by decide)
  refine ⟨fields?_international_slash hhyphen _, ?_⟩
  exact fields?_append slashed ⟨hfirst.all_isDigit, hfirst.pos, hfirst.le⟩ hsecond
    ⟨hyear, hwidth, by simp [slashed]⟩ htail

namespace DateSpelling

variable {i : Instant}

/-- What was written with slashes is scanned. -/
theorem readDate_slashedText (s : DateSpelling slashed) (order : Order) {width : Nat}
    (hwidth : 4 ≤ width) (h : i.IsReal) (hpos : 0 ≤ i.year)
    (hrange : Calendar.yearInRange i.year = true) :
    readDate order (s.slashedText order width i) = .ok (s.time.written i) := by
  have hnumber := number_year hpos hrange width
  have hdigits := Text.all_isDigit_padded width i.year.toNat
  have hlength : 4 ≤ (Text.padded width i.year.toNat).length :=
    hwidth.trans (Text.le_length_padded width _)
  have htail := s.time.head?_write i
  have hclock : clock? slashed.gap (s.time.write i) = s.time.clock? i := s.time.clock?_write h
  have hinstant := s.instant_write h hrange hnumber
  -- The two numbers before the year stand in the order in which they are read.
  cases order with
  | monthFirst =>
      rcases fields?_slashed_append (s.isShort_month h) (s.isShort_day h) hdigits hlength htail with
        ⟨hnone, hfields⟩
      simp only [readDate, slashedText, parts?, String.toList_ofList, hnone, hfields, hclock,
        Option.map_some, Order.parts]
      exact hinstant
  | dayFirst =>
      rcases fields?_slashed_append (s.isShort_day h) (s.isShort_month h) hdigits hlength htail with
        ⟨hnone, hfields⟩
      simp only [readDate, slashedText, parts?, String.toList_ofList, hnone, hfields, hclock,
        Option.map_some, Order.parts]
      exact hinstant

/-- What was written in the international way is scanned. -/
theorem fields?_internationalText (s : DateSpelling international) (h : i.IsReal)
    (hyear : i.year ≤ 9999) :
    fields? international (s.internationalText i).toList =
      some ⟨Text.padded 4 i.year.toNat, s.month.write i.month, s.day.write i.day,
        s.time.clock? i⟩ := by
  have hdigits := Text.all_isDigit_padded 4 i.year.toNat
  have hlength : (Text.padded 4 i.year.toNat).length ≤ 4 :=
    Text.length_padded_le (by decide) (by decide) (by omega)
  have hday := s.isShort_day h
  have hmost : ∀ m ∈ international.mostThird, (s.day.write i.day).length ≤ m := by
    intro m hm
    rcases Option.mem_some_iff.1 hm with rfl
    exact hday.le
  have hfields := fields?_append international ⟨hdigits, Text.le_length_padded 4 _, hlength⟩
    (s.isShort_month h) ⟨hday.all_isDigit, hday.pos, hmost⟩ (s.time.head?_write i)
  rw [s.time.clock?_write h] at hfields
  rw [internationalText, String.toList_ofList]
  exact hfields

end DateSpelling
end DateScan

namespace Locale

open DateScan

/-- However a real instant is written, it is read again, without the parts that were omitted: by the
locales at hand if it is written with slashes, in the order of the locale and with a year of at least four
digits, and by every locale if it is written in the international way. -/
theorem readDate_text {i : Instant} (hreal : i.IsReal) (hpos : 0 ≤ i.year) :
    (Calendar.yearInRange i.year = true →
      ∀ (s : DateSpelling slashed) (width : Nat), 4 ≤ width →
        enUS.readDate (s.slashedText .monthFirst width i) = .ok (s.time.written i) ∧
          en.readDate (s.slashedText .monthFirst width i) = .ok (s.time.written i) ∧
            fr.readDate (s.slashedText .dayFirst width i) = .ok (s.time.written i)) ∧
    (i.year ≤ 9999 → ∀ (l : Locale) (s : DateSpelling international),
      l.readDate (s.internationalText i) = .ok (s.time.written i)) := by
  refine ⟨?_, ?_⟩
  · intro hrange s width hwidth
    have hscan := fun order => s.readDate_slashedText order hwidth hreal hpos hrange
    refine ⟨?_, ?_, ?_⟩
    · rw [readDate_of_slashed .monthFirst rfl rfl, hscan]
    · rw [readDate_of_slashed .monthFirst rfl rfl, hscan]
    · rw [readDate_of_slashed .dayFirst rfl rfl, hscan]
  · intro hyear l s
    have hrange : Calendar.yearInRange i.year = true := by
      simp only [Calendar.yearInRange, Bool.and_eq_true, decide_eq_true_eq]
      omega
    rw [readDate_of_international l (s.fields?_internationalText hreal hyear)]
    exact s.instant_write hreal hrange (number_year hpos hrange 4)

/-- The last second of a leap day, in French without the second, and in the international way. -/
theorem readDate_text_leapDay :
    fr.readDate "29/2/02024 \t23:59" = .ok ⟨2024, 2, 29, 23, 59, 0⟩ ∧
      fr.readDate "2024-02-29T23:59:59" = .ok ⟨2024, 2, 29, 23, 59, 59⟩ := by
  have hreal : Instant.IsReal ⟨2024, 2, 29, 23, 59, 59⟩ := by decide
  rcases readDate_text hreal (by decide) with ⟨hslashed, hinternational⟩
  refine ⟨?_, ?_⟩
  · exact (hslashed rfl ⟨.least, .two, .toMinute ⟨[' ', '\t'], by decide, by decide⟩ .two .two⟩ 5
      (by decide)).2.2
  · exact hinternational (by decide) fr
      ⟨.two, .two, .toSecond ⟨['T'], by decide, by decide⟩ .two .two .two⟩

end Locale
end FormValidation
