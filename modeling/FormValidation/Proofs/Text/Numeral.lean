import Mathlib.Algebra.Group.Nat.Defs
import Mathlib.Data.List.Induction
import FormValidation.Text.Numeral

/-!
# Reading numerals that were written

What `Text.padded` writes is digits only, as many as it is asked for or as the number needs, and they are
read as the number that was written (`natural?_padded`, `signed64?_padded`).  Numbers are read from their
numerals and from nothing else (`natural?_eq_some_iff_isNumeral`), and numbers of 64 bits without a sign from
digits, with at most one `+` before them (`unsigned64?_eq_some_iff`).  A number that was written before a sign is
told by the digits up to the sign (`IsPadded.append_unique`).
-/

namespace FormValidation
namespace Text

/-! ## Digits -/

/-- Numerals consist of digits. -/
theorem all_isDigit_padded (width n : Nat) : (padded width n).all Char.isDigit = true := by
  rw [List.all_eq_true]
  intro c hc
  rcases List.mem_append.1 hc with hzero | hdigit
  · have hc0 : c = '0' := List.eq_of_mem_replicate hzero
    rw [hc0]
    decide
  · exact Nat.isDigit_of_mem_toDigits (by decide) (by decide) hdigit

theorem le_length_padded (width n : Nat) : width ≤ (padded width n).length := by
  simp only [padded, List.length_append, List.length_replicate]
  omega

theorem length_padded_pos (width n : Nat) : 0 < (padded width n).length := by
  have hdecimal : 0 < (decimal n).length := Nat.length_toDigits_pos
  simp only [padded, List.length_append]
  omega

/-- A number of few digits is written with no more than it is asked for. -/
theorem length_padded_le {width n k : Nat} (hk : 0 < k) (hwidth : width ≤ k) (hn : n < 10 ^ k) :
    (padded width n).length ≤ k := by
  have hdecimal : (decimal n).length ≤ k := (Nat.length_toDigits_le_iff (by decide) hk).2 hn
  simp only [padded, List.length_append, List.length_replicate]
  omega

/-! ## Values -/

/-- Zeros before a number do not change it. -/
theorem ofDigitChars_padded (width n : Nat) : Nat.ofDigitChars 10 (padded width n) 0 = n := by
  calc
    Nat.ofDigitChars 10 (padded width n) 0
        = Nat.ofDigitChars 10 (decimal n) (10 ^ (width - (decimal n).length) * 0) := by
          rw [padded, Nat.ofDigitChars_append, Nat.ofDigitChars_replicate_zero]
    _ = Nat.ofDigitChars 10 (decimal n) 0 := by rw [Nat.mul_zero]
    _ = n := Nat.ofDigitChars_ten_toDigits

theorem natural?_padded (width n : Nat) : natural? (padded width n) = some n := by
  have hne : padded width n ≠ [] := List.ne_nil_of_length_pos (length_padded_pos width n)
  simp [natural?, hne, all_isDigit_padded, ofDigitChars_padded]

theorem natural?_zeros_decimal (zeros n : Nat) :
    natural? (List.replicate zeros '0' ++ decimal n) = some n := by
  rw [← natural?_padded (zeros + (decimal n).length) n, padded, Nat.add_sub_cancel]

/-- Digits have no sign before them. -/
theorem integer?_of_digits {cs : List Char} (h : cs.all Char.isDigit = true) :
    integer? cs = (natural? cs).map Int.ofNat := by
  unfold integer?
  split
  · simp at h
  · simp at h
  · rfl

/-- A number that fits into 64 bits is read as it was written. -/
theorem signed64?_padded (width : Nat) {n : Nat} (h : n ≤ 9223372036854775807) :
    signed64? (padded width n) = some (n : Int) := by
  have hfits : fitsSigned64 (n : Int) = true := by
    simp only [fitsSigned64, Bool.and_eq_true, decide_eq_true_eq]
    omega
  rw [signed64?, integer?_of_digits (all_isDigit_padded width n), natural?_padded]
  exact Option.filter_some_pos hfits

/-! ## What digits spell -/

theorem isDigit_iff_le (c : Char) : c.isDigit = true ↔ '0' ≤ c ∧ c ≤ '9' := by
  simp [Char.isDigit, Char.le_def]

theorem natural?_eq_some_iff {cs : List Char} {n : Nat} :
    natural? cs = some n ↔
      cs ≠ [] ∧ (∀ c ∈ cs, c.isDigit = true) ∧ n = Nat.ofDigitChars 10 cs 0 := by
  rw [natural?, Option.ite_none_right_eq_some, Option.some_inj, List.all_eq_true, and_assoc,
    eq_comm (b := n)]

/-- The numerals of a number: its digits, with any zeros before them. -/
inductive IsNumeral : List Char → Nat → Prop
  | digit {d : Nat} : d < 10 → IsNumeral [Nat.digitChar d] d
  | append {cs : List Char} {n d : Nat} :
      IsNumeral cs n → d < 10 → IsNumeral (cs ++ [Nat.digitChar d]) (10 * n + d)

theorem digitChar_of_isDigit {c : Char} (h : c.isDigit = true) :
    c.toNat - 48 < 10 ∧ Nat.digitChar (c.toNat - 48) = c := by
  have hrange : 48 ≤ c.toNat ∧ c.toNat ≤ 57 := by
    simpa [Char.isDigit, UInt32.le_iff_toNat_le] using h
  have hlt : c.toNat - 48 < 10 := by omega
  refine ⟨hlt, Char.toNat_inj.1 ?_⟩
  rw [Nat.toNat_digitChar_of_lt_ten hlt]
  omega

theorem ofDigitChars_concat (cs : List Char) {d : Nat} (hd : d < 10) :
    Nat.ofDigitChars 10 (cs ++ [Nat.digitChar d]) 0 = 10 * Nat.ofDigitChars 10 cs 0 + d := by
  rw [Nat.ofDigitChars_append, Nat.ofDigitChars_cons, Nat.ofDigitChars_nil, Nat.toNat_digitChar_of_lt_ten hd]
  exact congrArg _ (Nat.add_sub_cancel_left 48 d)

/-- Digits are read as the number that they are a numeral of. -/
theorem natural?_eq_some_iff_isNumeral {cs : List Char} {n : Nat} :
    natural? cs = some n ↔ IsNumeral cs n := by
  rw [natural?_eq_some_iff]
  constructor
  · rintro ⟨hne, hdigits, rfl⟩
    -- By induction on the digits, the last one split off.
    induction cs using List.reverseRecOn with
    | nil => exact absurd rfl hne
    | append_singleton cs c ih =>
        rcases digitChar_of_isDigit (hdigits c (by simp)) with ⟨hlt, hc⟩
        rw [← hc, ofDigitChars_concat cs hlt]
        by_cases hcs : cs = []
        · subst hcs
          simpa using IsNumeral.digit hlt
        · exact .append (ih hcs fun c' hc' => hdigits c' (by simp [hc'])) hlt
  · intro h
    induction h with
    | @digit d hd =>
        have hvalue : Nat.ofDigitChars 10 [Nat.digitChar d] 0 = d := by
          simpa using ofDigitChars_concat [] hd
        exact ⟨by simp, by simp [Nat.isDigit_digitChar, hd], hvalue.symm⟩
    | append _ hd ih =>
        rcases ih with ⟨hne, hdigits, hn⟩
        refine ⟨by simp, ?_, by rw [ofDigitChars_concat _ hd, hn]⟩
        intro c hc
        rcases List.mem_append.1 hc with hc | hc
        · exact hdigits c hc
        · rw [List.mem_singleton.1 hc, Nat.isDigit_digitChar]
          simpa using hd

theorem IsNumeral.unique {digits : List Char} {n m : Nat} (hn : IsNumeral digits n)
    (hm : IsNumeral digits m) : n = m := by
  rw [← natural?_eq_some_iff_isNumeral] at hn hm
  exact Option.some.inj (hn.symm.trans hm)

theorem IsNumeral.isDigit {digits : List Char} {n : Nat} (h : IsNumeral digits n) :
    ∀ c ∈ digits, c.isDigit = true :=
  (natural?_eq_some_iff.1 (natural?_eq_some_iff_isNumeral.2 h)).2.1

theorem IsNumeral.exists_eq_cons {digits : List Char} {n : Nat} (h : IsNumeral digits n) :
    ∃ c rest, digits = c :: rest ∧ c.isDigit = true := by
  have hne : digits ≠ [] := (natural?_eq_some_iff.1 (natural?_eq_some_iff_isNumeral.2 h)).1
  rcases List.exists_cons_of_ne_nil hne with ⟨c, rest, rfl⟩
  exact ⟨c, rest, rfl, h.isDigit c List.mem_cons_self⟩

/-! ## Digits with zeros before them -/

/-- The digits of a number, with as many zeros before them as it takes to have some number of digits. -/
structure IsPadded (width : Nat) (digits : List Char) (n : Nat) : Prop where
  numeral : IsNumeral digits n
  le_length : width ≤ digits.length
  length_eq : n < 10 ^ width → digits.length = width

theorem isPadded_padded {width : Nat} (hwidth : 0 < width) (n : Nat) : IsPadded width (padded width n) n where
  numeral := natural?_eq_some_iff_isNumeral.1 (natural?_padded width n)
  le_length := le_length_padded width n
  length_eq hn := Nat.le_antisymm (length_padded_le hwidth (Nat.le_refl width) hn) (le_length_padded width n)

/-- Digits end where a sign stands. -/
theorem digits_append_inj {a b s t : List Char} {c : Char} (hc : c.isDigit = false)
    (ha : ∀ d ∈ a, d.isDigit = true) (hb : ∀ d ∈ b, d.isDigit = true) (h : a ++ c :: s = b ++ c :: t) :
    a = b ∧ s = t := by
  have htake : ∀ {digits : List Char}, (∀ d ∈ digits, d.isDigit = true) → ∀ rest,
      (digits ++ c :: rest).takeWhile Char.isDigit = digits := by
    intro digits hdigits rest
    rw [List.takeWhile_append_of_pos hdigits, List.takeWhile_cons_of_neg (by simp [hc]), List.append_nil]
  obtain rfl : a = b := by rw [← htake ha s, h, htake hb t]
  exact ⟨rfl, List.cons.inj (List.append_cancel_left h) |>.2⟩

/-- So a number is told by what stands before a sign. -/
theorem IsPadded.append_unique {width n m : Nat} {a b s t : List Char} {c : Char} (hc : c.isDigit = false)
    (ha : IsPadded width a n) (hb : IsPadded width b m) (h : a ++ c :: s = b ++ c :: t) : n = m ∧ s = t := by
  rcases digits_append_inj hc ha.numeral.isDigit hb.numeral.isDigit h with ⟨rfl, hrest⟩
  exact ⟨ha.numeral.unique hb.numeral, hrest⟩

/-! ## Numbers without a sign -/

/-- Digits, with at most one `+` before them, whose number fits into 64 bits. -/
def IsUnsigned64 (cs : List Char) (n : Nat) : Prop :=
  ∃ digits : List Char, digits ≠ [] ∧ (∀ c ∈ digits, c.isDigit = true) ∧
    (cs = digits ∨ cs = '+' :: digits) ∧ n = Nat.ofDigitChars 10 digits 0 ∧ n < 2 ^ 64

theorem unsigned64?_eq_some_iff {cs : List Char} {n : Nat} :
    unsigned64? cs = some n ↔ IsUnsigned64 cs n := by
  have hread : ∀ digits, (natural? digits).filter fitsUnsigned64 = some n ↔
      digits ≠ [] ∧ (∀ c ∈ digits, c.isDigit = true) ∧ n = Nat.ofDigitChars 10 digits 0 ∧ n < 2 ^ 64 := by
    intro digits
    have hfits : fitsUnsigned64 n = true ↔ n < 2 ^ 64 := by
      rw [fitsUnsigned64, decide_eq_true_eq]
      omega
    rw [Option.filter_eq_some_iff, natural?_eq_some_iff, hfits, and_assoc, and_assoc]
  unfold unsigned64?
  split
  · rename_i digits
    rw [hread]
    constructor
    · rintro ⟨hne, hdigits, hn⟩
      exact ⟨digits, hne, hdigits, .inr rfl, hn⟩
    · rintro ⟨digits', hne, hdigits, heq | heq, hn⟩
      · -- A plus is no digit.
        exact absurd (hdigits '+' (heq ▸ List.mem_cons_self)) (by decide)
      · cases heq
        exact ⟨hne, hdigits, hn⟩
  · rename_i hplus
    rw [hread]
    constructor
    · rintro ⟨hne, hdigits, hn⟩
      exact ⟨cs, hne, hdigits, .inl rfl, hn⟩
    · rintro ⟨digits', hne, hdigits, heq | heq, hn⟩
      · cases heq
        exact ⟨hne, hdigits, hn⟩
      · exact absurd heq (hplus digits')

end Text
end FormValidation
