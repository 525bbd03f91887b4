import FormValidation.Calendar.Text
import FormValidation.Proofs.Text.Numeral

/-!
# What the text of an instant tells

The text of an instant has its numbers in order, each in as many digits as it is due, with fixed signs between
them (`Instant.isToldBy_text`).  No two instants are told by the same text (`Instant.IsToldBy.unique`).
-/

namespace FormValidation

namespace Instant

open Text (IsPadded isPadded_padded)

/-- A year is told by its digits, four or more; outside of 0 to 9999 a sign stands before them. -/
inductive YearToldBy : Int → List Char → Prop where
  | plain {n : Nat} {digits : List Char} (hn : n ≤ 9999) (h : IsPadded 4 digits n) : YearToldBy n digits
  | after {n : Nat} {digits : List Char} (hn : 9999 < n) (h : IsPadded 4 digits n) :
      YearToldBy n ('+' :: digits)
  | before {n : Nat} {digits : List Char} (hn : 0 < n) (h : IsPadded 4 digits n) :
      YearToldBy (-n) ('-' :: digits)

/-- The text tells the instant: `2024-01-10 08:15:42`. -/
inductive IsToldBy (i : Instant) : String → Prop where
  | intro {year month day hour minute second : List Char} (hyear : YearToldBy i.year year)
      (hmonth : IsPadded 2 month i.month) (hday : IsPadded 2 day i.day) (hhour : IsPadded 2 hour i.hour)
      (hminute : IsPadded 2 minute i.minute) (hsecond : IsPadded 2 second i.second) :
      IsToldBy i <| String.ofList <|
        year ++ '-' :: month ++ '-' :: day ++ ' ' :: hour ++ ':' :: minute ++ ':' :: second

theorem yearToldBy_yearText (year : Int) : YearToldBy year (yearText year) := by
  unfold yearText
  by_cases hpos : 0 ≤ year
  · obtain ⟨n, rfl⟩ := Int.eq_ofNat_of_zero_le hpos
    by_cases hle : n ≤ 9999
    · rw [if_pos (by simp; omega)]
      exact .plain hle (isPadded_padded (by decide) n)
    · rw [if_neg (by simp; omega), if_pos hpos]
      exact .after (by omega) (isPadded_padded (by decide) n)
  · obtain ⟨n, rfl⟩ := Int.exists_eq_neg_ofNat (Int.le_of_not_le hpos)
    rw [if_neg (by simp; omega), if_neg hpos, Int.natAbs_neg]
    exact .before (by omega) (isPadded_padded (by decide) n)

/-- An instant is told by its text. -/
theorem isToldBy_text (i : Instant) : i.IsToldBy i.text :=
  .intro (yearToldBy_yearText i.year) (isPadded_padded (by decide) i.month)
    (isPadded_padded (by decide) i.day) (isPadded_padded (by decide) i.hour)
    (isPadded_padded (by decide) i.minute) (isPadded_padded (by decide) i.second)

/-- No two years are told by what stands before the first sign behind their digits. -/
theorem YearToldBy.append_unique {year year' : Int} {cs cs' s t : List Char} (h : YearToldBy year cs)
    (h' : YearToldBy year' cs') (heq : cs ++ '-' :: s = cs' ++ '-' :: t) : year = year' ∧ s = t := by
  have hdash : '-'.isDigit = false := rfl
  -- Digits do not begin with a sign, so the years have the same sign or none.
  have hsign : ∀ {c : Char} {digits : List Char} {n : Nat} {a b : List Char}, IsPadded 4 digits n →
      c.isDigit = false → digits ++ a ≠ c :: b := by
    intro c digits n a b hdigits hc heq
    rcases hdigits.numeral.exists_eq_cons with ⟨d, rest, rfl, hd⟩
    rw [(List.cons.inj heq).1, hc] at hd
    cases hd
  cases h with
  | plain _ h =>
      cases h' with
      | plain _ h' =>
          rcases h.append_unique hdash h' heq with ⟨rfl, hrest⟩
          exact ⟨rfl, hrest⟩
      | after _ h' => exact absurd heq (hsign h rfl)
      | before _ h' => exact absurd heq (hsign h rfl)
  | after _ h =>
      cases h' with
      | plain _ h' => exact absurd heq.symm (hsign h' rfl)
      | after _ h' =>
          rcases h.append_unique hdash h' (List.cons.inj heq).2 with ⟨rfl, hrest⟩
          exact ⟨rfl, hrest⟩
      | before _ h' => exact absurd (List.cons.inj heq).1 (by decide)
  | before _ h =>
      cases h' with
      | plain _ h' => exact absurd heq.symm (hsign h' rfl)
      | after _ h' => exact absurd (List.cons.inj heq).1 (by decide)
      | before _ h' =>
          rcases h.append_unique hdash h' (List.cons.inj heq).2 with ⟨rfl, hrest⟩
          exact ⟨rfl, hrest⟩

/-- A text tells one instant at most. -/
theorem IsToldBy.unique {i i' : Instant} {text : String} (h : i.IsToldBy text) (h' : i'.IsToldBy text) :
    i = i' := by
  rcases h with ⟨hyear, hmonth, hday, hhour, hminute, hsecond⟩
  generalize htext : String.ofList _ = text at h'
  rcases h' with ⟨hyear', hmonth', hday', hhour', hminute', hsecond'⟩
  have heq := String.ofList_injective htext
  simp only [List.append_assoc, List.cons_append] at heq
  -- Each number ends at the sign behind it.
  obtain ⟨hyears, heq⟩ := hyear.append_unique hyear' heq
  obtain ⟨hmonths, heq⟩ := hmonth.append_unique rfl hmonth' heq
  obtain ⟨hdays, heq⟩ := hday.append_unique rfl hday' heq
  obtain ⟨hhours, heq⟩ := hhour.append_unique rfl hhour' heq
  obtain ⟨hminutes, rfl⟩ := hminute.append_unique rfl hminute' heq
  have hseconds := hsecond.numeral.unique hsecond'.numeral
  cases i
  cases i'
  simp_all

theorem isToldBy_text_iff (i i' : Instant) : i'.IsToldBy i.text ↔ i' = i := by
  constructor
  · intro h
    exact h.unique i.isToldBy_text
  · rintro rfl
    exact i'.isToldBy_text

end Instant
end FormValidation
