import Mathlib.Tactic.IntervalCases
import FormValidation.Locale.Date
import FormValidation.Proofs.Calendar.Gregorian

/-!
# What components name

The components of a date name an instant, or the first of them that is out of range decides the error
(`DateParts.Names`).  What they name is what the check makes of them, whatever becomes of sums and differences
that do not fit into 64 bits (`Names.instantBy_eq`): only the month may be so small that there is one
(`instantBy_signed?`).
-/

namespace FormValidation

/-! ## Integers that fit -/

namespace Integer

variable {bits : Nat} {i : Int}

theorem signed?_of_fits (hbits : 0 < bits) (h : -2 ^ (bits - 1) ≤ i ∧ i < 2 ^ (bits - 1)) :
    signed? bits i = some i :=
  if_pos (BitVec.toInt_ofInt_eq_self hbits h.1 h.2)

theorem unsigned?_of_fits (hpos : 0 ≤ i) (h : i < 2 ^ bits) : unsigned? bits i = some i.toNat := by
  have hheld : ((BitVec.ofInt bits i).toNat : Int) = i := by
    rw [BitVec.toNat_ofInt, Int.emod_eq_of_lt hpos (by exact_mod_cast h), Int.toNat_of_nonneg hpos]
  exact if_pos hheld

theorem wrapped_of_fits (h : -2 ^ 63 ≤ i ∧ i < 2 ^ 63) : wrapped i = i :=
  BitVec.toInt_ofInt_eq_self (by decide) h.1 h.2

end Integer

/-! ## Days that may be written -/

/-- How many days of a month may be written: 29 in the February of every fourth year. -/
def Calendar.writtenDays (year month : Int) : Int :=
  if month = 2 then if year % 4 = 0 then 29 else 28
  else if month = 4 ∨ month = 6 ∨ month = 9 ∨ month = 11 then 30
  else 31

namespace DateParts

/-! ## Components in range -/

def MonthFits (p : DateParts) : Prop :=
  1 ≤ p.month ∧ p.month ≤ 12

def DayFits (p : DateParts) : Prop :=
  1 ≤ p.day ∧ p.day ≤ Calendar.writtenDays p.year p.month

def TimeFits (p : DateParts) : Prop :=
  (0 ≤ p.hour ∧ p.hour ≤ 23) ∧ (0 ≤ p.minute ∧ p.minute ≤ 59) ∧ 0 ≤ p.second ∧ p.second ≤ 59

def YearFits (p : DateParts) : Prop :=
  -262143 ≤ p.year ∧ p.year ≤ 262142

/-- The day may be written, but it is none of the Gregorian calendar. -/
def IsLost (p : DateParts) : Prop :=
  p.month = 2 ∧ p.day = 29 ∧ Calendar.isGregorianLeap p.year = false

instance (p : DateParts) : Decidable p.MonthFits :=
  inferInstanceAs (Decidable (_ ∧ _))

instance (p : DateParts) : Decidable p.DayFits :=
  inferInstanceAs (Decidable (_ ∧ _))

instance (p : DateParts) : Decidable p.TimeFits :=
  inferInstanceAs (Decidable (_ ∧ _ ∧ _))

instance (p : DateParts) : Decidable p.YearFits :=
  inferInstanceAs (Decidable (_ ∧ _))

instance (p : DateParts) : Decidable p.IsLost :=
  inferInstanceAs (Decidable (_ ∧ _ ∧ _))

/-- What components name: an instant, or the error about the first of them that is out of range. -/
inductive Names (p : DateParts) : Except DateError Instant → Prop where
  | noMonth (hmonth : ¬p.MonthFits) : Names p (.error .monthOutOfRange)
  | noDay (hmonth : p.MonthFits) (hday : ¬p.DayFits) : Names p (.error .dayOutOfRange)
  | noTime (hmonth : p.MonthFits) (hday : p.DayFits) (htime : ¬p.TimeFits) :
      Names p (.error .timeOutOfRange)
  | noYear (hmonth : p.MonthFits) (hday : p.DayFits) (htime : p.TimeFits) (hyear : ¬p.YearFits) :
      Names p (.error .yearOutOfRange)
  | real (hmonth : p.MonthFits) (hday : p.DayFits) (htime : p.TimeFits) (hyear : p.YearFits)
      (hreal : ¬p.IsLost) :
      Names p (.ok ⟨p.year, p.month.toNat, p.day.toNat, p.hour.toNat, p.minute.toNat, p.second.toNat⟩)
  /-- The day is named that follows the last one of February. -/
  | lost (hmonth : p.MonthFits) (hday : p.DayFits) (htime : p.TimeFits) (hyear : p.YearFits)
      (hlost : p.IsLost) : Names p (.ok ⟨p.year, 3, 1, p.hour.toNat, p.minute.toNat, p.second.toNat⟩)

variable {p : DateParts} {result : Except DateError Instant}

theorem exists_names (p : DateParts) : ∃ result, p.Names result := by
  by_cases hmonth : p.MonthFits
  · by_cases hday : p.DayFits
    · by_cases htime : p.TimeFits
      · by_cases hyear : p.YearFits
        · by_cases hlost : p.IsLost
          · exact ⟨_, .lost hmonth hday htime hyear hlost⟩
          · exact ⟨_, .real hmonth hday htime hyear hlost⟩
        · exact ⟨_, .noYear hmonth hday htime hyear⟩
      · exact ⟨_, .noTime hmonth hday htime⟩
    · exact ⟨_, .noDay hmonth hday⟩
  · exact ⟨_, .noMonth hmonth⟩

/-! ## Months -/

theorem daysInMonth?_of_monthFits (h : p.MonthFits) :
    ∃ days : Nat, Calendar.daysInMonth? p.year (p.month - 1) = some days ∧
      (days : Int) = Calendar.writtenDays p.year p.month := by
  obtain ⟨year, month, day, hour, minute, second⟩ := p
  obtain ⟨hpos, hle⟩ := h
  simp only at hpos hle ⊢
  by_cases hleap : year % 4 = 0
  · interval_cases month <;>
      simp [Calendar.daysInMonth?, Calendar.monthLengths, Calendar.writtenDays, Calendar.hasLeapDay, hleap]
  · interval_cases month <;>
      simp [Calendar.daysInMonth?, Calendar.monthLengths, Calendar.writtenDays, Calendar.hasLeapDay, hleap]

theorem daysInMonth?_eq_none (year : Int) {month0 : Int} (h : month0 < 0 ∨ 12 ≤ month0) :
    Calendar.daysInMonth? year month0 = none := by
  unfold Calendar.daysInMonth?
  rcases h with h | h
  · rw [if_pos h]
  · have hlength : Calendar.monthLengths.length ≤ month0.toNat := by
      have hcount : Calendar.monthLengths.length = 12 := rfl
      omega
    rw [if_neg (by omega), List.getElem?_eq_none hlength]
    rfl

theorem writtenDays_le (year month : Int) : Calendar.writtenDays year month ≤ 31 := by
  unfold Calendar.writtenDays
  repeat' split
  all_goals decide

/-- A day that may be written is one of the Gregorian calendar, if it is not lost. -/
theorem le_gregorianDays (hmonth : p.MonthFits) (hday : p.DayFits) (hreal : ¬p.IsLost) :
    p.day.toNat ≤ Calendar.gregorianDays p.year p.month.toNat := by
  obtain ⟨year, month, day, hour, minute, second⟩ := p
  obtain ⟨hpos, hle⟩ := hmonth
  obtain ⟨-, hday⟩ := hday
  simp only [IsLost] at hpos hle hday hreal ⊢
  unfold Calendar.writtenDays at hday
  by_cases hfebruary : month = 2
  · subst hfebruary
    simp only [if_true] at hday
    cases hleap : Calendar.isGregorianLeap year with
    | true =>
        have hlength : Calendar.gregorianDays year (2 : Int).toNat = 29 := by
          simp [Calendar.gregorianDays, hleap]
        split at hday <;> omega
    | false =>
        have hlength : Calendar.gregorianDays year (2 : Int).toNat = 28 := by
          simp [Calendar.gregorianDays, hleap]
        have hne : day ≠ 29 := fun h => hreal ⟨rfl, h, hleap⟩
        split at hday <;> omega
  · -- The other months do not depend on the year.
    interval_cases month <;> simp [Calendar.gregorianDays] at hday hfebruary ⊢ <;> exact hday

/-! ## Assembling an instant -/

variable {m : Type → Type} [Monad m] [LawfulMonad m] {fit : Int → m Int}

theorem atTime_some (htime : p.TimeFits) (d : Date) :
    atTime (some d) p.hour p.minute p.second =
      .ok ⟨d.year, d.month, d.day, p.hour.toNat, p.minute.toNat, p.second.toNat⟩ := by
  rcases htime with ⟨⟨hhour, hhour'⟩, ⟨hminute, hminute'⟩, hsecond, hsecond'⟩
  have hat : d.at? p.hour.toNat p.minute.toNat p.second.toNat =
      some ⟨d.year, d.month, d.day, p.hour.toNat, p.minute.toNat, p.second.toNat⟩ :=
    Date.at?_of_le (by omega) (by omega) (by omega)
  simp only [atTime, Integer.unsigned?_of_fits hhour (by omega : p.hour < 2 ^ 32),
    Integer.unsigned?_of_fits hminute (by omega : p.minute < 2 ^ 32),
    Integer.unsigned?_of_fits hsecond (by omega : p.second < 2 ^ 32), Option.bind_eq_bind, Option.bind_some, hat]

/-- The sums and differences on the way fit into 64 bits, and month and day into their places. -/
theorem assembleBy_of_fits (hfit : ∀ i, -2 ^ 63 ≤ i ∧ i < 2 ^ 63 → fit i = pure i) (hmonth : p.MonthFits)
    (hday : p.DayFits) {year : Int} (hyear : Integer.signed? 32 p.year = some year) :
    assembleBy fit p.year (p.month - 1) p.day p.hour p.minute p.second =
      pure (atTime ((Date.first? year p.month.toNat).bind fun d => d.later? (p.day.toNat - 1)) p.hour p.minute
        p.second) := by
  have hle : p.day ≤ 31 := hday.2.trans (writtenDays_le p.year p.month)
  rcases hmonth with ⟨hpos, hle'⟩
  rcases hday with ⟨hone, -⟩
  have hsum : p.month - 1 + 1 = p.month := by omega
  have hdays : (p.day - 1).toNat = p.day.toNat - 1 := by omega
  have hmonth : Integer.unsigned? 32 p.month = some p.month.toNat :=
    Integer.unsigned?_of_fits (by omega) (by omega)
  have hday : Integer.unsigned? 64 (p.day - 1) = some (p.day - 1).toNat :=
    Integer.unsigned?_of_fits (by omega) (by omega)
  simp only [assembleBy, hyear, hsum, hfit p.month (by omega), hfit (p.day - 1) (by omega), pure_bind, hmonth,
    hday, hdays]

theorem yearInRange_iff : Calendar.yearInRange p.year = true ↔ p.YearFits := by
  simp [Calendar.yearInRange, YearFits]

/-- Where all but the year was checked, an instant is assembled, or the year is out of range. -/
theorem Names.assembleBy_eq (hfit : ∀ i, -2 ^ 63 ≤ i ∧ i < 2 ^ 63 → fit i = pure i) (hmonth : p.MonthFits)
    (hday : p.DayFits) (htime : p.TimeFits) (h : p.Names result) :
    assembleBy fit p.year (p.month - 1) p.day p.hour p.minute p.second = pure result := by
  have hmonth' : 1 ≤ p.month.toNat ∧ p.month.toNat ≤ 12 := by
    rcases hmonth with ⟨hpos, hle⟩
    omega
  have hyear32 : p.YearFits → Integer.signed? 32 p.year = some p.year := by
    rintro ⟨hpos, hle⟩
    exact Integer.signed?_of_fits (by decide) (by omega)
  cases h with
  | noMonth hnone => exact absurd hmonth hnone
  | noDay _ hnone => exact absurd hday hnone
  | noTime _ _ hnone => exact absurd htime hnone
  | noYear _ _ _ hyear =>
      cases hnarrow : Integer.signed? 32 p.year with
      | none => simp only [assembleBy, hnarrow]
      | some year =>
          obtain rfl : year = p.year := Integer.eq_of_signed? hnarrow
          have hrange : Calendar.yearInRange p.year = false := by
            rw [Bool.eq_false_iff]
            exact fun h => hyear (yearInRange_iff.1 h)
          rw [assembleBy_of_fits hfit hmonth hday hnarrow, Date.first?_eq_none hrange]
          rfl
  | real _ _ _ hyear hreal =>
      have hdate : ((Date.first? p.year p.month.toNat).bind fun d => d.later? (p.day.toNat - 1)) =
          some ⟨p.year, p.month.toNat, p.day.toNat⟩ := by
        have hone : 1 ≤ p.day.toNat := by
          have hpos := hday.1
          omega
        exact Date.first?_later? (yearInRange_iff.2 hyear) hmonth' ⟨hone, le_gregorianDays hmonth hday hreal⟩
      rw [assembleBy_of_fits hfit hmonth hday (hyear32 hyear), hdate, atTime_some htime]
  | lost _ _ _ hyear hlost =>
      rcases hlost with ⟨hfebruary, hlast, hleap⟩
      have hdate : ((Date.first? p.year p.month.toNat).bind fun d => d.later? (p.day.toNat - 1)) =
          some ⟨p.year, 3, 1⟩ := by
        rw [hfebruary, hlast]
        exact Date.first?_later?_march (yearInRange_iff.2 hyear) hleap
      rw [assembleBy_of_fits hfit hmonth hday (hyear32 hyear), hdate, atTime_some htime]

/-! ## Checking -/

/-- What components name is what the check makes of them, if the month before theirs is a number of 64
bits. -/
theorem Names.instantBy_eq (hfit : ∀ i, -2 ^ 63 ≤ i ∧ i < 2 ^ 63 → fit i = pure i)
    (hbefore : -2 ^ 63 ≤ p.month - 1 ∧ p.month - 1 < 2 ^ 63) (h : p.Names result) :
    p.instantBy fit = pure result := by
  unfold instantBy
  rw [hfit _ hbefore, pure_bind]
  by_cases hmonth : p.MonthFits
  · rcases daysInMonth?_of_monthFits hmonth with ⟨days, hdays, hwritten⟩
    simp only [hdays]
    by_cases hday : p.DayFits
    · have hday' : ¬(p.day < 1 ∨ (days : Int) < p.day) := by
        rcases hday with ⟨hpos, hle⟩
        omega
      rw [if_neg hday']
      by_cases htime : p.TimeFits
      · have htime' : ¬(p.hour < 0 ∨ 23 < p.hour ∨ p.minute < 0 ∨ 59 < p.minute ∨ p.second < 0 ∨
            59 < p.second) := by
          rcases htime with ⟨hhour, hminute, hsecond⟩
          omega
        rw [if_neg htime', h.assembleBy_eq hfit hmonth hday htime]
      · have htime' : p.hour < 0 ∨ 23 < p.hour ∨ p.minute < 0 ∨ 59 < p.minute ∨ p.second < 0 ∨
            59 < p.second := by
          unfold TimeFits at htime
          omega
        rw [if_pos htime']
        cases h <;> first | rfl | contradiction
    · have hday' : p.day < 1 ∨ (days : Int) < p.day := by
        unfold DayFits at hday
        omega
      rw [if_pos hday']
      cases h <;> first | rfl | contradiction
  · have hnone : Calendar.daysInMonth? p.year (p.month - 1) = none := by
      unfold MonthFits at hmonth
      exact daysInMonth?_eq_none p.year (by omega)
    simp only [hnone]
    cases h <;> first | rfl | contradiction

/-- The components of 64 bits name what the check makes of them. -/
theorem Names.instant_eq (hfits : -2 ^ 63 ≤ p.month ∧ p.month < 2 ^ 63) (h : p.Names result) :
    p.instant = result := by
  by_cases hleast : p.month = -2 ^ 63
  · -- The month before the least one wraps around, but that is no month either.
    have hwrapped : Integer.wrapped (p.month - 1) = 2 ^ 63 - 1 := by
      rw [hleast]
      decide
    have hnone : Calendar.daysInMonth? p.year (2 ^ 63 - 1) = none :=
      daysInMonth?_eq_none p.year (.inr (by decide))
    have hinstant : p.instant = .error .monthOutOfRange := by
      simp only [instant, instantBy, pure_bind, hwrapped, hnone]
      rfl
    have hmonth : ¬p.MonthFits := by
      unfold MonthFits
      omega
    rw [hinstant]
    cases h <;> first | rfl | contradiction
  · have hid : p.instantBy (m := Id) (fun i => pure (Integer.wrapped i)) = pure result :=
      h.instantBy_eq (fun i hi => by rw [Integer.wrapped_of_fits hi]) (by omega)
    exact hid

/-- No sum or difference is too large or too small for 64 bits, unless the month is the least number of 64
bits. -/
theorem instantBy_signed? (hfits : -2 ^ 63 ≤ p.month ∧ p.month < 2 ^ 63) :
    p.instantBy (Integer.signed? 64) = if p.month = -2 ^ 63 then none else some p.instant := by
  split
  · rename_i hleast
    have hnone : Integer.signed? 64 (p.month - 1) = none := by
      rw [hleast]
      decide
    simp [instantBy, hnone]
  · rcases exists_names p with ⟨result, h⟩
    rw [h.instant_eq hfits]
    exact h.instantBy_eq (fun i hi => Integer.signed?_of_fits (by decide) hi) (by omega)

end DateParts

/-! ## The components of real instants -/

namespace Instant

/-- The components of an instant. -/
def parts (i : Instant) : DateParts :=
  ⟨i.year, i.month, i.day, i.hour, i.minute, i.second⟩

theorem gregorianDays_le_writtenDays (year : Int) {month : Nat} (hmonth : 1 ≤ month ∧ month ≤ 12) :
    (Calendar.gregorianDays year month : Int) ≤ Calendar.writtenDays year month := by
  obtain ⟨hpos, hle⟩ := hmonth
  by_cases hfebruary : month = 2
  · subst hfebruary
    cases hleap : Calendar.isGregorianLeap year with
    | true =>
        have hfourth : year % 4 = 0 := by
          rw [Calendar.isGregorianLeap, Bool.and_eq_true, beq_iff_eq] at hleap
          exact hleap.1
        simp [Calendar.gregorianDays, Calendar.writtenDays, hleap, hfourth]
    | false =>
        simp only [Calendar.gregorianDays, Calendar.writtenDays, hleap]
        simp only [Bool.false_eq_true, if_false, Nat.cast_ofNat, if_true]
        split <;> decide
  · interval_cases month <;> simp [Calendar.gregorianDays, Calendar.writtenDays] at hfebruary ⊢

/-- A real instant is what its components name. -/
theorem names_parts {i : Instant} (h : i.IsReal) (hyear : Calendar.yearInRange i.year = true) :
    i.parts.Names (.ok i) := by
  have hmonth : i.parts.MonthFits := by
    have hpos := h.month_pos
    have hle := h.month_le
    simp only [DateParts.MonthFits, parts]
    omega
  have hday : i.parts.DayFits := by
    have hpos := h.day_pos
    have hle := h.day_le
    have hwritten := gregorianDays_le_writtenDays i.year ⟨h.month_pos, h.month_le⟩
    simp only [DateParts.DayFits, parts]
    omega
  have htime : i.parts.TimeFits := by
    have hhour := h.hour_le
    have hminute := h.minute_le
    have hsecond := h.second_le
    simp only [DateParts.TimeFits, parts]
    omega
  have hreal : ¬i.parts.IsLost := by
    rintro ⟨hfebruary, hlast, hleap⟩
    have hle := h.day_le
    simp only [parts] at hfebruary hlast hleap
    have hmonth2 : i.month = 2 := by omega
    simp only [Calendar.gregorianDays, hmonth2, hleap] at hle
    simp at hle
    omega
  exact .real hmonth hday htime (DateParts.yearInRange_iff.1 hyear) hreal

/-- A real instant is what is made of its components. -/
theorem instant_parts {i : Instant} (h : i.IsReal) (hyear : Calendar.yearInRange i.year = true) :
    i.parts.instant = .ok i := by
  have hmonth := h.month_le
  refine (names_parts h hyear).instant_eq ?_
  simp only [parts]
  omega

end Instant
end FormValidation
