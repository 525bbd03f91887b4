import FormValidation.Calendar.Basic

/-!
# Days of the Gregorian calendar

An instant is real if its day is one of the Gregorian calendar (`Instant.IsReal`).  Counted from the first of
a month the days are those of the month, up to its last one (`Date.first?_later?`); the day after 28 February
of a year that is not leap is 1 March (`Date.first?_later?_march`).
-/

namespace FormValidation

/-! ## Real instants -/

namespace Instant

/-- The day is one of the Gregorian calendar, and the time one of a day. -/
structure IsReal (i : Instant) : Prop where
  month_pos : 1 ≤ i.month
  month_le : i.month ≤ 12
  day_pos : 1 ≤ i.day
  day_le : i.day ≤ Calendar.gregorianDays i.year i.month
  hour_le : i.hour ≤ 23
  minute_le : i.minute ≤ 59
  second_le : i.second ≤ 59

theorem isReal_iff (i : Instant) :
    i.IsReal ↔ (1 ≤ i.month ∧ i.month ≤ 12) ∧
      (1 ≤ i.day ∧ i.day ≤ Calendar.gregorianDays i.year i.month) ∧
        i.hour ≤ 23 ∧ i.minute ≤ 59 ∧ i.second ≤ 59 := by
  constructor
  · rintro ⟨hmonth, hmonth', hday, hday', hhour, hminute, hsecond⟩
    exact ⟨⟨hmonth, hmonth'⟩, ⟨hday, hday'⟩, hhour, hminute, hsecond⟩
  · rintro ⟨⟨hmonth, hmonth'⟩, ⟨hday, hday'⟩, hhour, hminute, hsecond⟩
    exact ⟨hmonth, hmonth', hday, hday', hhour, hminute, hsecond⟩

instance (i : Instant) : Decidable i.IsReal :=
  decidable_of_iff _ i.isReal_iff.symm

end Instant

/-! ## Counting days -/

namespace Date

/-- The days of a month follow each other. -/
theorem later_of_le {d : Date} {days : Nat} (h : d.day + days ≤ Calendar.gregorianDays d.year d.month) :
    d.later days = { d with day := d.day + days } := by
  induction days with
  | zero => rfl
  | succ days ih =>
      have hbefore : d.later days = { d with day := d.day + days } := ih (by omega)
      have hlt : d.day + days < Calendar.gregorianDays d.year d.month := by omega
      rw [later, hbefore, next]
      exact if_pos hlt

theorem first?_of_inRange {year : Int} {month : Nat} (hyear : Calendar.yearInRange year = true)
    (hmonth : 1 ≤ month ∧ month ≤ 12) : first? year month = some ⟨year, month, 1⟩ := by
  simp [first?, hyear, hmonth]

theorem first?_eq_none {year : Int} (hyear : Calendar.yearInRange year = false) (month : Nat) :
    first? year month = none := by
  simp [first?, hyear]

/-- Counted from the first of a month, a day of the month is that day. -/
theorem first?_later? {year : Int} {month day : Nat} (hyear : Calendar.yearInRange year = true)
    (hmonth : 1 ≤ month ∧ month ≤ 12) (hday : 1 ≤ day ∧ day ≤ Calendar.gregorianDays year month) :
    ((first? year month).bind fun d => d.later? (day - 1)) = some ⟨year, month, day⟩ := by
  have hdays : (⟨year, month, 1⟩ : Date).later (day - 1) = ⟨year, month, 1 + (day - 1)⟩ :=
    later_of_le (by simp only; omega)
  have hsum : 1 + (day - 1) = day := by omega
  rw [first?_of_inRange hyear hmonth, Option.bind_some, later?, hdays, hsum, if_pos hyear]

/-- A 29 February that the calendar does not know is 1 March. -/
theorem first?_later?_march {year : Int} (hyear : Calendar.yearInRange year = true)
    (hleap : Calendar.isGregorianLeap year = false) :
    ((first? year 2).bind fun d => d.later? 28) = some ⟨year, 3, 1⟩ := by
  have hlength : Calendar.gregorianDays year 2 = 28 := by simp [Calendar.gregorianDays, hleap]
  have hdays : (⟨year, 2, 1⟩ : Date).later 27 = ⟨year, 2, 28⟩ :=
    later_of_le (by simp only; omega)
  have hmarch : (⟨year, 2, 1⟩ : Date).later 28 = ⟨year, 3, 1⟩ := by
    rw [later, hdays, next, if_neg (by simp only; omega), if_pos (by simp only; omega)]
  rw [first?_of_inRange hyear (by omega), Option.bind_some, later?, hmarch, if_pos hyear]

theorem at?_of_le {d : Date} {hour minute second : Nat} (hhour : hour ≤ 23) (hminute : minute ≤ 59)
    (hsecond : second ≤ 59) :
    d.at? hour minute second = some ⟨d.year, d.month, d.day, hour, minute, second⟩ := by
  have htime : (hour < 24 && minute < 60 && second < 60) = true := by
    simp only [Bool.and_eq_true, decide_eq_true_eq]
    omega
  exact if_pos htime

end Date
end FormValidation
