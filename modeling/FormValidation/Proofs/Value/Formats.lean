import FormValidation.Proofs.Locale.DateMatch
import FormValidation.Proofs.Pattern.Language
import FormValidation.Proofs.Value.Decimal

/-!
# The formats of numbers

Numerals can also be told by patterns.  The pattern of integers matches their numerals, without a bound on
the number (`Value.isMatch_intPattern_iff`); the pattern of decimal numbers, applied after points were put for
the separators, matches what is read as a decimal number (`Value.isMatch_floatPattern`).
-/

namespace FormValidation
namespace Value

open Pattern (Regex)

/-! ## Signs and digits -/

/-- A minus sign that may be left out. -/
def signRegex : Regex :=
  .rep (.sign '-') 0 (some 1) true

theorem mem_signRegex {w : List Char} :
    w ∈ signRegex.language ↔ ∃ negative, w = if negative = true then ['-'] else [] := by
  rw [signRegex, Regex.mem_language_optional, Regex.sign, Regex.mem_language_single]
  simp

theorem mem_digits {w : List Char} : w ∈ (Regex.digits 1 none).language ↔ IsDigits w := by
  rw [Regex.digits, Regex.mem_language_rep_char, Pattern.CharClass.has_digit, Nat.one_le_iff_ne_zero, Ne,
    List.length_eq_zero_iff]
  simp only [IsDigits, Text.isDigit_iff_le]

theorem exists_isNumeral_iff {ds : List Char} : (∃ n, Text.IsNumeral ds n) ↔ IsDigits ds := by
  simp only [← Text.natural?_eq_some_iff_isNumeral, natural?_eq_some_iff_isDigits, exists_and_left,
    exists_eq, and_true]

/-! ## Integers -/

def intSource : String :=
  "^-?[0-9]+$"

def intPattern : Pattern :=
  ⟨intSource, .concat (.assertion .textStart :: ([signRegex, .digits 1 none] ++ [.assertion .textEnd]))⟩

theorem read?_intSource : Pattern.read? intSource = some intPattern := by
  decide +kernel

/-- The pattern of integers matches the numerals of integers. -/
theorem isMatch_intPattern_iff (s : String) :
    intPattern.isMatch s = true ↔ ∃ i, IsInteger s.toList i := by
  have hplain : ∀ r ∈ [signRegex, Regex.digits 1 none], r.isPlain = true := by decide
  rw [Pattern.isMatch, intPattern, Regex.isMatch_whole hplain]
  simp only [List.map_cons, List.map_nil, List.prod_cons, List.prod_nil, mul_one, Language.mem_mul,
    mem_digits, ← exists_isNumeral_iff]
  constructor
  · rintro ⟨u, hu, ds, ⟨n, hn⟩, hs⟩
    rw [← hs]
    rcases mem_signRegex.1 hu with ⟨_ | _, rfl⟩
    · exact ⟨n, .natural hn⟩
    · exact ⟨-n, .negative hn⟩
  · rintro ⟨i, hi⟩
    generalize s.toList = cs at hi
    cases hi with
    | natural hn => exact ⟨[], mem_signRegex.2 ⟨false, rfl⟩, cs, ⟨_, hn⟩, rfl⟩
    | @negative ds n hn => exact ⟨['-'], mem_signRegex.2 ⟨true, rfl⟩, ds, ⟨n, hn⟩, rfl⟩

/-! ## Decimal numbers -/

def floatSource : String :=
  "^-?[0-9]+(\\.[0-9]+)?$"

/-- A point and digits that may be left out. -/
def fractionRegex : Regex :=
  .rep (.group 1 (.concat [.sign '.', .digits 1 none])) 0 (some 1) true

def floatPattern : Pattern :=
  ⟨floatSource,
    .concat (.assertion .textStart :: ([signRegex, .digits 1 none, fractionRegex] ++ [.assertion .textEnd]))⟩

theorem read?_floatSource : Pattern.read? floatSource = some floatPattern := by
  decide +kernel

theorem mem_fractionRegex {w : List Char} :
    w ∈ fractionRegex.language ↔ w = [] ∨ ∃ ds, IsDigits ds ∧ w = '.' :: ds := by
  rw [fractionRegex, Regex.mem_language_optional, Regex.language, Regex.language_concat, List.map_cons,
    List.map_singleton, List.prod_cons, List.prod_singleton, Language.mem_mul]
  refine or_congr_right ⟨?_, ?_⟩
  · rintro ⟨u, hu, ds, hds, rfl⟩
    obtain rfl : u = ['.'] := Regex.mem_language_single.1 hu
    exact ⟨ds, mem_digits.1 hds, rfl⟩
  · rintro ⟨ds, hds, rfl⟩
    exact ⟨['.'], Regex.mem_language_single.2 rfl, ds, mem_digits.2 hds, rfl⟩

theorem isMatch_floatPattern_iff (s : String) :
    floatPattern.isMatch s = true ↔ ∃ D : Decimal, s.toList = D.chars '.' := by
  have hplain : ∀ r ∈ [signRegex, Regex.digits 1 none, fractionRegex], r.isPlain = true := by decide
  rw [Pattern.isMatch, floatPattern, Regex.isMatch_whole hplain]
  simp only [List.map_cons, List.map_nil, List.prod_cons, List.prod_nil, mul_one, Language.mem_mul,
    mem_digits]
  constructor
  · rintro ⟨u, hu, v, ⟨whole, hwhole, w, hw, rfl⟩, hs⟩
    rcases mem_signRegex.1 hu with ⟨negative, rfl⟩
    rcases mem_fractionRegex.1 hw with rfl | ⟨ds, hds, rfl⟩
    · exact ⟨⟨negative, whole, none, hwhole, by simp⟩, hs.symm⟩
    · exact ⟨⟨negative, whole, some ds, hwhole, by simpa using hds⟩, hs.symm⟩
  · rintro ⟨D, hD⟩
    refine ⟨D.sign, mem_signRegex.2 ⟨D.negative, rfl⟩, D.whole ++ D.tail '.', ?_, hD.symm⟩
    refine ⟨D.whole, D.isDigits_whole, D.tail '.', mem_fractionRegex.2 ?_, rfl⟩
    unfold Decimal.tail
    cases hfraction : D.fraction with
    | none => exact .inl rfl
    | some ds => exact .inr ⟨ds, D.isDigits_fraction ds hfraction, rfl⟩

/-- The pattern of decimal numbers matches what is read as one, once points are put for the separators. -/
theorem isMatch_floatPattern (l : Locale) (text : String) :
    floatPattern.isMatch (String.ofList (withPoints l.decimalSeparator text.toList)) =
      (read? l .float text).isSome := by
  rw [Bool.eq_iff_iff, isMatch_floatPattern_iff, isSome_read?_float_iff, String.toList_ofList]
  simp only [withPoints_eq_chars_iff]

end Value
end FormValidation
