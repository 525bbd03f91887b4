import FormValidation.Proofs.Calendar.Components

/-!
# The calendar behind dates

A text is matched by one of two formats (`Locale.Chooses`), whose groups hold the components of a date
(`DateParts.ReadFrom`).  Whatever the locale, and whatever the numbers in the groups are, reading the text gives
what the components name (`Locale.readDate_eq_iff_names`).
-/

namespace FormValidation

/-! ## Components in groups -/

namespace DateParts

/-- The group took part in the match, and what it matched is a number of 64 bits. -/
def Holds (captures : Pattern.Captures) (group : Nat) (n : Int) : Prop :=
  ∃ digits, captures.text? group = some digits ∧ Text.signed64? digits = some n

/-- The format has no such group, or the group took no part in the match. -/
def IsAbsent (captures : Pattern.Captures) (group : Option Nat) : Prop :=
  ∀ k, group = some k → captures.text? k = none

/-- What counts for a group that may be absent: the number that it holds, or else none. -/
inductive Counts (captures : Pattern.Captures) (group : Option Nat) : Int → Prop where
  | absent (h : IsAbsent captures group) : Counts captures group 0
  | present {k : Nat} {n : Int} (hgroup : group = some k) (h : Holds captures k n) :
      Counts captures group n

/-- The time of the day in the groups of a match.  Minutes and seconds count only together with an hour. -/
inductive TimeReadFrom (groups : DateGroups) (captures : Pattern.Captures) : Int → Int → Int → Prop where
  | absent (h : IsAbsent captures groups.hour) : TimeReadFrom groups captures 0 0 0
  | present {k : Nat} {hour minute second : Int} (hgroup : groups.hour = some k)
      (hhour : Holds captures k hour) (hminute : Counts captures groups.minute minute)
      (hsecond : Counts captures groups.second second) : TimeReadFrom groups captures hour minute second

/-- The components are the numbers in the groups of a match. -/
structure ReadFrom (groups : DateGroups) (captures : Pattern.Captures) (p : DateParts) : Prop where
  year : Holds captures groups.year p.year
  month : Holds captures groups.month p.month
  day : Holds captures groups.day p.day
  time : TimeReadFrom groups captures p.hour p.minute p.second

variable {captures : Pattern.Captures} {groups : DateGroups} {p : DateParts}

/-- A number in a group has 64 bits. -/
theorem Holds.fits {group : Nat} {n : Int} (h : Holds captures group n) : -2 ^ 63 ≤ n ∧ n < 2 ^ 63 := by
  rcases h with ⟨digits, -, hdigits⟩
  have hfits := (Option.filter_eq_some_iff.1 hdigits).2
  simp only [Text.fitsSigned64, Bool.and_eq_true, decide_eq_true_eq] at hfits
  omega

theorem optional_eq_none_iff {group : Option Nat} :
    optional captures group = .ok none ↔ IsAbsent captures group := by
  cases group with
  | none => simp [optional, IsAbsent]
  | some k =>
      have hbind : (some k).bind captures.text? = captures.text? k := rfl
      cases htext : captures.text? k with
      | none => simp [optional, IsAbsent, hbind, htext]
      | some digits => cases hnumber : Text.signed64? digits <;> simp [optional, IsAbsent, hbind, htext, hnumber]

theorem optional_eq_some_iff {group : Option Nat} {n : Int} :
    optional captures group = .ok (some n) ↔ ∃ k, group = some k ∧ Holds captures k n := by
  cases group with
  | none => simp [optional]
  | some k =>
      have hbind : (some k).bind captures.text? = captures.text? k := rfl
      cases htext : captures.text? k with
      | none => simp [optional, Holds, hbind, htext]
      | some digits => cases hnumber : Text.signed64? digits <;> simp [optional, Holds, hbind, htext, hnumber]

theorem required_of_holds {group : Nat} {n : Int} (h : Holds captures group n) :
    required captures group = .ok n := by
  have hoptional : optional captures (some group) = .ok (some n) := optional_eq_some_iff.2 ⟨group, rfl, h⟩
  rw [required, hoptional]
  rfl

/-- A number that counts is read, and an absent one is none. -/
theorem Counts.optional_eq {group : Option Nat} {n : Int} (h : Counts captures group n) :
    ∃ found, optional captures group = .ok found ∧ found.getD 0 = n := by
  cases h with
  | absent h => exact ⟨none, optional_eq_none_iff.2 h, rfl⟩
  | present hgroup h => exact ⟨some n, optional_eq_some_iff.2 ⟨_, hgroup, h⟩, rfl⟩

/-- The numbers in the groups are the components that are checked. -/
theorem ReadFrom.ofCaptures_eq (h : p.ReadFrom groups captures) : ofCaptures groups captures = .ok p := by
  obtain ⟨year, month, day, hour, minute, second⟩ := p
  rcases h with ⟨hyear, hmonth, hday, htime⟩
  rw [ofCaptures, required_of_holds hyear, required_of_holds hmonth, required_of_holds hday]
  cases htime with
  | absent hnone =>
      rw [optional_eq_none_iff.2 hnone]
      rfl
  | present hgroup hhour hminute hsecond =>
      rcases hminute.optional_eq with ⟨minute', hoptional, rfl⟩
      rcases hsecond.optional_eq with ⟨second', hoptional', rfl⟩
      rw [optional_eq_some_iff.2 ⟨_, hgroup, hhour⟩, hoptional, hoptional']
      rfl

/-- Components that name an instant name a real one. -/
theorem Names.isReal {i : Instant} (h : p.Names (.ok i)) : i.IsReal := by
  cases h with
  | real hmonth hday htime hyear hreal =>
      have hle := le_gregorianDays hmonth hday hreal
      rcases hmonth with ⟨hmonth, hmonth'⟩
      rcases hday with ⟨hday, -⟩
      rcases htime with ⟨hhour, hminute, hsecond⟩
      refine { month_pos := ?_, month_le := ?_, day_pos := ?_, day_le := hle, hour_le := ?_, minute_le := ?_,
               second_le := ?_ }
      all_goals
        simp only
        omega
  | lost hmonth hday htime hyear hlost =>
      rcases htime with ⟨hhour, hminute, hsecond⟩
      have hmarch : 1 ≤ Calendar.gregorianDays p.year 3 := by simp [Calendar.gregorianDays]
      refine { month_pos := ?_, month_le := ?_, day_pos := ?_, day_le := hmarch, hour_le := ?_,
               minute_le := ?_, second_le := ?_ }
      all_goals
        simp only
        omega

theorem Names.exists_iff {result : Except DateError Instant} (h : p.Names result) :
    (∃ i, result = .ok i) ↔ p.MonthFits ∧ p.DayFits ∧ p.TimeFits ∧ p.YearFits := by
  cases h with
  | noMonth hmonth => simp [hmonth]
  | noDay hmonth hday => simp [hday]
  | noTime hmonth hday htime => simp [htime]
  | noYear hmonth hday htime hyear => simp [hyear]
  | real hmonth hday htime hyear _ => simp [hmonth, hday, htime, hyear]
  | lost hmonth hday htime hyear _ => simp [hmonth, hday, htime, hyear]

end DateParts

/-! ## Reading -/

namespace Locale

/-- The match that a text is read by: that of the international format, or else that of the locale. -/
inductive Chooses (l : Locale) (text : String) : Pattern.Captures → DateGroups → Prop where
  | international {captures : Pattern.Captures}
      (h : DateFormat.international.pattern.captures? text = some captures) :
      Chooses l text captures .yearFirst
  | own {captures : Pattern.Captures} (hnone : DateFormat.international.pattern.captures? text = none)
      (h : l.dateFormat.pattern.captures? text = some captures) :
      Chooses l text captures l.dateFormat.groups

open DateParts

variable {l : Locale} {text : String} {captures : Pattern.Captures} {groups : DateGroups} {p : DateParts}

theorem readDate_of_readFrom (hmatch : l.Chooses text captures groups) (hparts : p.ReadFrom groups captures) :
    l.readDate text = p.instant := by
  have hmatch' : (DateFormat.international.match? text).or (l.dateFormat.match? text) = some (captures, groups) := by
    cases hmatch with
    | international h =>
        simp only [DateFormat.match?, h, Option.map_some, Option.some_or]
        rfl
    | own hnone h => simp only [DateFormat.match?, hnone, h, Option.map_some, Option.map_none, Option.none_or]
  rw [readDate, hmatch']
  simp only [hparts.ofCaptures_eq]
  rfl

/-- Whatever the locale, a text whose match holds integers is read as what these name: as a real instant if all
of them are in range, and else the first one that is not, in the order month, day, time and year, decides the
error.  No sum or difference of 64 bits is out of range on the way, unless the month is the least number of 64
bits, and once the other components were checked only the year can still be refused. -/
theorem readDate_eq_iff_names (hmatch : l.Chooses text captures groups) (hparts : p.ReadFrom groups captures) :
    ((∃ i, l.readDate text = .ok i) ↔ p.MonthFits ∧ p.DayFits ∧ p.TimeFits ∧ p.YearFits) ∧
    (∀ result, l.readDate text = result ↔ p.Names result) ∧
    (∀ i, l.readDate text = .ok i → i.IsReal) ∧
    (p.instantBy (Integer.signed? 64) = if p.month = -2 ^ 63 then none else some (l.readDate text)) ∧
    (p.MonthFits → p.DayFits → p.TimeFits → ∀ x,
      Id.run (assembleBy (fun i => pure (Integer.wrapped i)) p.year (p.month - 1) p.day p.hour p.minute
        p.second) = .error x → x = .yearOutOfRange ∧ ¬p.YearFits) := by
  have hread : l.readDate text = p.instant := readDate_of_readFrom hmatch hparts
  have hfits : -2 ^ 63 ≤ p.month ∧ p.month < 2 ^ 63 := hparts.month.fits
  rcases exists_names p with ⟨result, hnames⟩
  have hresult : l.readDate text = result := hread.trans (hnames.instant_eq hfits)
  refine ⟨?_, ?_, ?_, ?_, ?_⟩
  · rw [hresult]
    exact hnames.exists_iff
  · intro result'
    constructor
    · rintro rfl
      rwa [hresult]
    · intro hnames'
      rw [hread, hnames'.instant_eq hfits]
  · rintro i hi
    rw [hresult] at hi
    exact (hi ▸ hnames).isReal
  · rw [hread]
    exact instantBy_signed? hfits
  · intro hmonth hday htime x hx
    have hassemble : assembleBy (m := Id) (fun i => pure (Integer.wrapped i)) p.year (p.month - 1) p.day p.hour
        p.minute p.second = pure result :=
      hnames.assembleBy_eq (fun i hi => by rw [Integer.wrapped_of_fits hi]) hmonth hday htime
    rw [hassemble] at hx
    obtain rfl : result = .error x := hx
    -- Of the errors that components may name only the last one is left.
    cases hnames with
    | noMonth hnone => exact absurd hmonth hnone
    | noDay _ hnone => exact absurd hday hnone
    | noTime _ _ hnone => exact absurd htime hnone
    | noYear _ _ _ hyear => exact ⟨rfl, hyear⟩

/-- A locale that writes years with a sign, and hours alone. -/
def ancient : Locale where
  name := "ancient"
  dateFormat :=
    { pattern :=
        ⟨"([-0-9]+)/([0-9]+)/([0-9]+)( ([0-9]+)h)?", .concat [
          .group 1 (.rep (.char (.union .digit (.single '-'))) 1 none true), .sign '/',
          .group 2 (.digits 1 none), .sign '/', .group 3 (.digits 1 none),
          .rep (.group 4 (.concat [.sign ' ', .group 5 (.digits 1 none), .sign 'h'])) 0 (some 1) true]⟩
      groups := { year := 1, month := 2, day := 3, hour := some 5 } }
  decimalSeparator := '.'

/-- The year 100 before the year 0 may be written with a leap day, but has none. -/
theorem readDate_eq_iff_names_ancient :
    ancient.readDate "-100/2/29 7h" = .ok ⟨-100, 3, 1, 7, 0, 0⟩ := by
  let p : DateParts := ⟨-100, 2, 29, 7, 0, 0⟩
  have hnone : DateFormat.international.pattern.captures? "-100/2/29 7h" = none :=
    Option.isNone_iff_eq_none.1 (by decide +kernel)
  have htexts : (ancient.dateFormat.pattern.captures? "-100/2/29 7h").map
      (fun c => [c.text? 1, c.text? 2, c.text? 3, c.text? 5]) =
        some [some "-100".toList, some "2".toList, some "29".toList, some "7".toList] := by
    decide +kernel
  rcases Option.map_eq_some_iff.1 htexts with ⟨captures, hcaptures, htexts⟩
  obtain ⟨hyear, hmonth, hday, hhour⟩ : captures.text? 1 = some "-100".toList ∧
      captures.text? 2 = some "2".toList ∧ captures.text? 3 = some "29".toList ∧
      captures.text? 5 = some "7".toList := by
    simpa using htexts
  have habsent : IsAbsent captures none := by simp [IsAbsent]
  have hparts : p.ReadFrom ancient.dateFormat.groups captures :=
    ⟨⟨_, hyear, by decide +kernel⟩, ⟨_, hmonth, by decide +kernel⟩, ⟨_, hday, by decide +kernel⟩,
      .present rfl ⟨_, hhour, by decide +kernel⟩ (.absent habsent) (.absent habsent)⟩
  have hnames : p.Names (.ok ⟨-100, 3, 1, 7, 0, 0⟩) :=
    .lost (by decide) (by decide) (by decide) (by decide) (by decide)
  exact ((readDate_eq_iff_names (.own hnone hcaptures) hparts).2.1 _).2 hnames

end Locale
end FormValidation
