import Mathlib.Data.List.Basic
import FormValidation.Proofs.Number.Rounding
import FormValidation.Proofs.Text.Numeral
import FormValidation.Proofs.Text.Pieces
import FormValidation.Proofs.Value.Integer

/-!
# Reading decimal numbers

A decimal is a sign, digits and optionally more digits.  A locale writes it with a point, a comma or its own
separator between the two runs of digits, and it can write those decimals only in which its separator does not
occur.  The texts that are read as decimal numbers are the ones so written, and each is read as the
number of double precision closest to the decimal (`Value.read?_float`).
-/

namespace FormValidation

/-! ## Decimals -/

/-- A run of one digit or more. -/
def IsDigits (ds : List Char) : Prop :=
  ds ≠ [] ∧ ∀ c ∈ ds, '0' ≤ c ∧ c ≤ '9'

theorem isDigits_iff (ds : List Char) : ds ≠ [] ∧ (∀ c ∈ ds, c.isDigit = true) ↔ IsDigits ds := by
  simp only [IsDigits, Text.isDigit_iff_le]

instance (ds : List Char) : Decidable (IsDigits ds) :=
  decidable_of_iff (ds ≠ [] ∧ ds.all Char.isDigit = true) (by rw [List.all_eq_true, isDigits_iff])

/-- A sign, digits, and optionally the digits of a fraction. -/
structure Decimal where
  negative : Bool
  whole : List Char
  fraction : Option (List Char)
  isDigits_whole : IsDigits whole
  isDigits_fraction : ∀ ds ∈ fraction, IsDigits ds

namespace Decimal

/-- The number without its sign. -/
def magnitude (D : Decimal) : ℚ :=
  Nat.ofDigitChars 10 D.whole 0 +
    match D.fraction with
    | none => 0
    | some ds => Nat.ofDigitChars 10 ds 0 / 10 ^ ds.length

/-- The sign of a decimal as it is written. -/
def sign (D : Decimal) : List Char :=
  if D.negative then ['-'] else []

/-- The fraction of a decimal as it is written with a character before it. -/
def tail (D : Decimal) (point : Char) : List Char :=
  match D.fraction with
  | none => []
  | some ds => point :: ds

/-- A decimal as it is written with a character before the fraction. -/
def chars (D : Decimal) (point : Char) : List Char :=
  D.sign ++ (D.whole ++ D.tail point)

/-- A character occurs neither in the sign nor among the digits. -/
def Avoids (D : Decimal) (c : Char) : Prop :=
  c ∉ D.sign ∧ c ∉ D.whole ∧ ∀ ds ∈ D.fraction, c ∉ ds

instance (D : Decimal) (c : Char) : Decidable (D.Avoids c) :=
  inferInstanceAs (Decidable (_ ∧ _ ∧ _))

/-- The characters are the decimal as it is written where the given separator is used. -/
def WrittenAs (D : Decimal) (separator : Char) (cs : List Char) : Prop :=
  D.Avoids separator ∧ ∃ point ∈ ['.', ',', separator], cs = D.chars point

/-- The number of double precision that the decimal is read as. -/
def rounded (D : Decimal) : Binary64 :=
  match D.fraction with
  | none => .ofFraction D.negative (Nat.ofDigitChars 10 D.whole 0) 1
  | some ds =>
      .ofFraction D.negative (Nat.ofDigitChars 10 (D.whole ++ ds) 0) (Nat.pow 10 ds.length)

end Decimal

/-! ## Digits -/

theorem IsDigits.isDigit {ds : List Char} (h : IsDigits ds) : ∀ c ∈ ds, c.isDigit = true :=
  ((isDigits_iff ds).2 h).2

theorem natural?_eq_some_iff_isDigits {ds : List Char} {n : Nat} :
    Text.natural? ds = some n ↔ IsDigits ds ∧ n = Nat.ofDigitChars 10 ds 0 := by
  rw [Text.natural?_eq_some_iff, ← isDigits_iff, and_assoc]

/-- Points and commas are no digits. -/
theorem IsDigits.plain {ds : List Char} (h : IsDigits ds) : ∀ c ∈ ds, c ≠ '.' ∧ c ≠ ',' := by
  intro c hc
  have hdigit := h.isDigit c hc
  constructor <;> rintro rfl <;> exact absurd hdigit (by decide)

theorem Decimal.plain_sign_whole (D : Decimal) : ∀ c ∈ D.sign ++ D.whole, c ≠ '.' ∧ c ≠ ',' := by
  intro c hc
  rcases List.mem_append.1 hc with hsign | hwhole
  · have hhyphen : c = '-' := by
      unfold Decimal.sign at hsign
      cases hnegative : D.negative <;> simp_all
    rw [hhyphen]
    decide
  · exact D.isDigits_whole.plain c hwhole

namespace Value

/-! ## Reading with points -/

theorem eq_of_sign {cs rest : List Char} {negative : Bool} (h : sign cs = (negative, rest)) :
    cs = (if negative = true then ['-'] else []) ++ rest := by
  unfold sign at h
  split at h <;> cases h <;> rfl

theorem sign_chars (D : Decimal) (point : Char) :
    sign (D.chars point) = (D.negative, D.whole ++ D.tail point) := by
  cases hnegative : D.negative with
  | true => simp [Decimal.chars, Decimal.sign, hnegative, sign]
  | false =>
      -- Digits come first, and a minus sign is none of them.
      have hhead : (D.whole ++ D.tail point).head? ≠ some '-' := by
        rw [List.head?_append_of_ne_nil _ D.isDigits_whole.1]
        intro hhyphen
        exact absurd (D.isDigits_whole.isDigit '-' (List.mem_of_head? hhyphen)) (by decide)
      simpa [Decimal.chars, Decimal.sign, hnegative] using sign_of_head?_ne hhead

theorem decimal?_chars (D : Decimal) : decimal? (D.chars '.') = some D.rounded := by
  -- The digits before the point are the longest run of digits.
  have hpoint : ∀ c ∈ (D.tail '.').head?, Char.isDigit c = false := by
    unfold Decimal.tail
    cases D.fraction with
    | none => simp
    | some ds => simp
  rcases Text.takeWhile_append_of_head? D.isDigits_whole.isDigit hpoint with ⟨hwhole, htail⟩
  simp only [decimal?, sign_chars, hwhole, htail]
  rcases List.exists_cons_of_ne_nil D.isDigits_whole.1 with ⟨c, cs, hcons⟩
  cases hfraction : D.fraction with
  | none => simp [Decimal.tail, Decimal.rounded, hfraction, hcons]
  | some ds =>
      have hread := natural?_eq_some_iff_isDigits.2 ⟨D.isDigits_fraction ds hfraction, rfl⟩
      simp [Decimal.tail, Decimal.rounded, hfraction, hcons, hread]

/-- With points for the separators, the decimals are what is read as decimal numbers. -/
theorem decimal?_eq_some_iff {cs : List Char} {x : Binary64} :
    decimal? cs = some x ↔ ∃ D : Decimal, cs = D.chars '.' ∧ x = D.rounded := by
  constructor
  · intro h
    rcases hsign : sign cs with ⟨negative, rest⟩
    have hcs := eq_of_sign hsign
    have hcut := List.takeWhile_append_dropWhile (p := Char.isDigit) (l := rest)
    have hdigits : ∀ c ∈ rest.takeWhile Char.isDigit, '0' ≤ c ∧ c ≤ '9' := fun c hc =>
      (Text.isDigit_iff_le c).1 (List.mem_takeWhile_imp hc)
    simp only [decimal?, hsign] at h
    split at h
    · cases h
    · -- There is nothing behind the digits.
      rename_i hbehind hne
      refine ⟨⟨negative, _, none, ⟨hne, hdigits⟩, by simp⟩, ?_, (Option.some.inj h).symm⟩
      rw [hbehind] at hcut
      simpa [Decimal.chars, Decimal.sign, Decimal.tail, hcs] using hcut.symm
    · -- A point and more digits are behind the digits.
      rename_i ds hbehind hne
      rcases Option.map_eq_some_iff.1 h with ⟨n, hn, rfl⟩
      have hfraction := (natural?_eq_some_iff_isDigits.1 hn).1
      refine ⟨⟨negative, _, some ds, ⟨hne, hdigits⟩, by simpa using hfraction⟩, ?_, rfl⟩
      rw [hbehind] at hcut
      simpa [Decimal.chars, Decimal.sign, Decimal.tail, hcs] using hcut.symm
    · cases h
  · rintro ⟨D, rfl, rfl⟩
    exact decimal?_chars D

/-! ## Separators -/

section

variable {separator : Char} {cs : List Char}

/-- A character that becomes itself is no separator. -/
theorem point_eq_iff_of_ne {c d : Char} (hpoint : d ≠ '.') (hcomma : d ≠ ',') :
    (if c = ',' ∨ c = separator then '.' else c) = d ↔ separator ≠ d ∧ c = d := by
  split
  · rename_i h
    constructor
    · rintro rfl
      exact absurd rfl hpoint
    · rintro ⟨hne, rfl⟩
      exact (h.elim hcomma fun heq => hne heq.symm).elim
  · rename_i h
    constructor
    · rintro rfl
      exact ⟨fun heq => h (.inr heq.symm), rfl⟩
    · exact And.right

theorem point_eq_point_iff {c : Char} :
    (if c = ',' ∨ c = separator then '.' else c) = '.' ↔ c ∈ ['.', ',', separator] := by
  simp only [List.mem_cons, List.not_mem_nil, or_false]
  split
  · rename_i h
    simp [h]
  · rename_i h
    rw [not_or] at h
    simp [h]

/-- Characters that points are not written for stay as they are if the separator is none of them. -/
theorem withPoints_eq_iff_of_plain {w : List Char} (hw : ∀ c ∈ w, c ≠ '.' ∧ c ≠ ',') :
    withPoints separator cs = w ↔ separator ∉ w ∧ cs = w := by
  induction w generalizing cs with
  | nil => simp [withPoints]
  | cons d w ih =>
      rcases List.forall_mem_cons.1 hw with ⟨hd, hrest⟩
      simp only [withPoints, List.map_eq_cons_iff, point_eq_iff_of_ne hd.1 hd.2] at ih ⊢
      simp only [List.mem_cons, not_or]
      constructor
      · rintro ⟨c, ds, rfl, ⟨hne, rfl⟩, hds⟩
        rcases (ih hrest).1 hds with ⟨hmem, rfl⟩
        exact ⟨⟨hne, hmem⟩, rfl⟩
      · rintro ⟨⟨hne, hmem⟩, rfl⟩
        exact ⟨d, w, rfl, ⟨hne, rfl⟩, (ih hrest).2 ⟨hmem, rfl⟩⟩

theorem withPoints_eq_append_iff {w v : List Char} (hw : ∀ c ∈ w, c ≠ '.' ∧ c ≠ ',')
    (hv : ∀ c ∈ v, c ≠ '.' ∧ c ≠ ',') :
    withPoints separator cs = w ++ '.' :: v ↔
      separator ∉ w ∧ separator ∉ v ∧ ∃ point ∈ ['.', ',', separator], cs = w ++ point :: v := by
  constructor
  · intro h
    rcases List.map_eq_append_iff.1 h with ⟨w', rest, rfl, hw', hrest⟩
    rcases List.map_eq_cons_iff.1 hrest with ⟨point, v', rfl, hpoint, hv'⟩
    rcases (withPoints_eq_iff_of_plain hw).1 hw' with ⟨hsepw, rfl⟩
    rcases (withPoints_eq_iff_of_plain hv).1 hv' with ⟨hsepv, rfl⟩
    exact ⟨hsepw, hsepv, point, point_eq_point_iff.1 hpoint, rfl⟩
  · rintro ⟨hsepw, hsepv, point, hpoint, rfl⟩
    have hw' := (withPoints_eq_iff_of_plain hw).2 ⟨hsepw, rfl⟩
    have hv' := (withPoints_eq_iff_of_plain hv).2 ⟨hsepv, rfl⟩
    rw [withPoints] at hw' hv' ⊢
    rw [List.map_append, List.map_cons, hw', hv', point_eq_point_iff.2 hpoint]

/-- With points for its separators, a text is a decimal if it is that decimal as it is written. -/
theorem withPoints_eq_chars_iff {D : Decimal} :
    withPoints separator cs = D.chars '.' ↔ D.WrittenAs separator cs := by
  unfold Decimal.WrittenAs Decimal.Avoids Decimal.chars Decimal.tail
  cases hfraction : D.fraction with
  | none =>
      -- Without a fraction nothing is written between digits, so any choice of the character will do.
      rw [List.append_nil, withPoints_eq_iff_of_plain D.plain_sign_whole, List.mem_append, not_or]
      simp [and_assoc]
  | some ds =>
      rw [← List.append_assoc, withPoints_eq_append_iff D.plain_sign_whole
        (D.isDigits_fraction ds hfraction).plain, List.mem_append, not_or]
      simp [and_assoc]

end

/-! ## Values -/

theorem read?_float_eq_some_iff {l : Locale} {text : String} {v : Value} :
    read? l .float text = some v ↔
      ∃ D : Decimal, D.WrittenAs l.decimalSeparator text.toList ∧ v = .float D.rounded := by
  simp only [read?, Option.map_eq_some_iff, decimal?_eq_some_iff, withPoints_eq_chars_iff]
  constructor
  · rintro ⟨x, ⟨D, hD, rfl⟩, rfl⟩
    exact ⟨D, hD, rfl⟩
  · rintro ⟨D, hD, rfl⟩
    exact ⟨D.rounded, ⟨D, hD, rfl⟩, rfl⟩

end Value

namespace Binary64

/-- The number has the given sign and the magnitude closest to the given one. -/
def IsRounded (x : Binary64) (negative : Bool) (magnitude : ℚ) : Prop :=
  x.negative = negative ∧ IsNearest magnitude x.magnitude

theorem IsRounded.unique {x y : Binary64} {negative : Bool} {magnitude : ℚ}
    (hx : x.IsRounded negative magnitude) (hy : y.IsRounded negative magnitude) : x = y := by
  rcases x with ⟨xn, xm, hxm⟩
  rcases y with ⟨yn, ym, hym⟩
  obtain rfl : xn = yn := hx.1.trans hy.1.symm
  obtain rfl : xm = ym := hx.2.unique hy.2
  rfl

theorem isRounded_ofFraction (negative : Bool) {n d : Nat} (hd : 0 < d) :
    (ofFraction negative n d).IsRounded negative (n / d) :=
  ⟨rfl, isNearest_nearest hd⟩

/-- Bits that stand for no number: all bits of the exponent are set, and one of the fraction. -/
def IsNaN (bits : Nat) : Prop :=
  bits / 2 ^ 52 % 2 ^ 11 = 2 ^ 11 - 1 ∧ bits % 2 ^ 52 ≠ 0

theorem not_isNaN_bits (x : Binary64) : ¬ IsNaN x.bits := by
  -- The magnitude does not go beyond that of infinity, whose fraction is zero.
  have hle : x.magnitude ≤ 0x7ff0000000000000 := x.magnitude_le
  unfold IsNaN bits
  cases x.negative <;> simp <;> omega

end Binary64

namespace Decimal

/-- The digits of a decimal written without a point, over the power of ten that the point stands for. -/
theorem ofDigitChars_append_div (whole ds : List Char) :
    (Nat.ofDigitChars 10 (whole ++ ds) 0 : ℚ) / (10 ^ ds.length : ℕ) =
      Nat.ofDigitChars 10 whole 0 + Nat.ofDigitChars 10 ds 0 / 10 ^ ds.length := by
  have hpow : (10 : ℚ) ^ ds.length ≠ 0 := pow_ne_zero _ (by norm_num)
  rw [Nat.ofDigitChars_append, Nat.ofDigitChars_eq_ofDigitChars_zero]
  push_cast
  rw [add_div, mul_div_cancel_left₀ _ hpow]

/-- A decimal is read as the number closest to it. -/
theorem isRounded_rounded (D : Decimal) : D.rounded.IsRounded D.negative D.magnitude := by
  unfold rounded magnitude
  cases D.fraction with
  | none =>
      have hround := Binary64.isRounded_ofFraction D.negative (n := Nat.ofDigitChars 10 D.whole 0) Nat.one_pos
      simpa using hround
  | some ds =>
      have hpow : 0 < 10 ^ ds.length := Nat.pow_pos (by decide)
      have hround :=
        Binary64.isRounded_ofFraction D.negative (n := Nat.ofDigitChars 10 (D.whole ++ ds) 0) hpow
      rw [ofDigitChars_append_div] at hround
      exact hround

end Decimal

namespace Value

theorem isSome_read?_float_iff {l : Locale} {text : String} :
    (read? l .float text).isSome = true ↔
      ∃ D : Decimal, D.WrittenAs l.decimalSeparator text.toList := by
  simp only [Option.isSome_iff_exists, read?_float_eq_some_iff]
  constructor
  · rintro ⟨v, D, hD, -⟩
    exact ⟨D, hD⟩
  · rintro ⟨D, hD⟩
    exact ⟨_, D, hD, rfl⟩

/-- The texts that are read as decimal numbers are the decimals written with a point, a comma or the
separator of the locale; each is read as the number closest to the decimal, whatever was written between its
digits and wherever. -/
theorem read?_float (l : Locale) :
    (∀ text, (read? l .float text).isSome = true ↔
      ∃ D : Decimal, D.WrittenAs l.decimalSeparator text.toList) ∧
    (∀ text (D : Decimal), D.WrittenAs l.decimalSeparator text.toList →
      ∃ x : Binary64, read? l .float text = some (.float x) ∧ ¬ Binary64.IsNaN x.bits ∧
        ∀ y : Binary64, y.IsRounded D.negative D.magnitude ↔ y = x) ∧
    (∀ (l' : Locale) text text' (D : Decimal), D.WrittenAs l.decimalSeparator text.toList →
      D.WrittenAs l'.decimalSeparator text'.toList → read? l .float text = read? l' .float text') := by
  refine ⟨fun _ => isSome_read?_float_iff, ?_, ?_⟩
  · intro text D hD
    refine ⟨D.rounded, read?_float_eq_some_iff.2 ⟨D, hD, rfl⟩, D.rounded.not_isNaN_bits, fun y => ?_⟩
    constructor
    · exact fun hy => hy.unique D.isRounded_rounded
    · rintro rfl
      exact D.isRounded_rounded
  · intro l' text text' D hD hD'
    rw [read?_float_eq_some_iff.2 ⟨D, hD, rfl⟩, read?_float_eq_some_iff.2 ⟨D, hD', rfl⟩]

/-- A locale whose separator is a digit reads the numerals in which the digit stands once. -/
theorem read?_float_digitSeparator :
    let l : Locale := { Locale.fr with decimalSeparator := '5' }
    let D : Decimal := ⟨false, ['1'], some ['2'], by decide, by decide⟩
    D.WrittenAs '5' "152".toList ∧ D.WrittenAs ',' "1.2".toList ∧
      (read? l .float "152").isSome = true ∧ read? l .float "152" = read? .fr .float "1.2" := by
  intro l D
  have hdigit : D.WrittenAs '5' "152".toList := by
    refine ⟨by decide, '5', by decide, rfl⟩
  have hpoint : D.WrittenAs ',' "1.2".toList := by
    refine ⟨by decide, '.', by decide, rfl⟩
  exact ⟨hdigit, hpoint, ((read?_float l).1 "152").2 ⟨D, hdigit⟩,
    (read?_float l).2.2 .fr "152" "1.2" D hdigit hpoint⟩

end Value
end FormValidation
