import Mathlib.Algebra.Ring.Int.Defs
import FormValidation.Proofs.Text.Numeral
import FormValidation.Proofs.Value.Comparison

/-!
# Comparing integers

The texts that are read as integers are the numerals of integers of 64 bits, and each is read as the integer
that it is a numeral of (`Value.read?_int_eq_some_iff`).  So comparisons of integers are those of the exact
numbers (`Locale.compare_int`).
-/

namespace FormValidation

open Text (IsNumeral)

/-! ## Numerals of integers -/

/-- The numerals of an integer: those of a natural number, with a minus sign before them for its negative. -/
inductive IsInteger : List Char → Int → Prop
  | natural {cs : List Char} {n : Nat} : IsNumeral cs n → IsInteger cs n
  | negative {cs : List Char} {n : Nat} : IsNumeral cs n → IsInteger ('-' :: cs) (-n)

/-- The text is a numeral of an integer of 64 bits. -/
def IsInteger64 (text : String) (i : Int) : Prop :=
  IsInteger text.toList i ∧ -2 ^ 63 ≤ i ∧ i ≤ 2 ^ 63 - 1

/-! ## Reading -/

/-- A minus sign is no digit. -/
theorem not_isNumeral_hyphen {cs : List Char} {n : Nat} : ¬ IsNumeral ('-' :: cs) n := by
  intro h
  have hdigits := (Text.natural?_eq_some_iff.1 (Text.natural?_eq_some_iff_isNumeral.2 h)).2.1
  exact absurd (hdigits '-' List.mem_cons_self) (by decide)

namespace Value

theorem sign_of_head?_ne {cs : List Char} (h : cs.head? ≠ some '-') : sign cs = (false, cs) := by
  unfold sign
  split
  · exact absurd rfl h
  · rfl

theorem isInteger_iff {cs : List Char} {i : Int} :
    IsInteger cs i ↔
      ∃ n : Nat, IsNumeral (sign cs).2 n ∧ (if (sign cs).1 = true then -(n : Int) else n) = i := by
  constructor
  · rintro (hn | hn)
    · -- No numeral begins with a sign, so none is taken off.
      rename_i n
      have hsign : sign cs = (false, cs) := by
        refine sign_of_head?_ne fun hhead => ?_
        rcases List.head?_eq_some_iff.1 hhead with ⟨ds, rfl⟩
        exact not_isNumeral_hyphen hn
      exact ⟨n, by rwa [hsign], by simp [hsign]⟩
    · rename_i ds n
      exact ⟨n, hn, rfl⟩
  · rintro ⟨n, hn, rfl⟩
    by_cases hhead : cs.head? = some '-'
    · rcases List.head?_eq_some_iff.1 hhead with ⟨ds, rfl⟩
      exact .negative hn
    · rw [sign_of_head?_ne hhead] at hn ⊢
      exact .natural hn

theorem fitsSigned64_eq_true_iff (i : Int) :
    Text.fitsSigned64 i = true ↔ -2 ^ 63 ≤ i ∧ i ≤ 2 ^ 63 - 1 := by
  rw [Text.fitsSigned64, Bool.and_eq_true, decide_eq_true_eq, decide_eq_true_eq]
  omega

theorem int?_eq_some_iff {cs : List Char} {i : Int} :
    int? cs = some i ↔ IsInteger cs i ∧ -2 ^ 63 ≤ i ∧ i ≤ 2 ^ 63 - 1 := by
  simp only [int?, Option.filter_eq_some_iff, Option.map_eq_some_iff, Option.bind_eq_bind,
    Option.bind_eq_some_iff, Option.pure_def, Option.some.injEq, exists_exists_and_eq_and,
    fitsSigned64_eq_true_iff, Text.natural?_eq_some_iff_isNumeral, isInteger_iff]

/-- Integers are read from their numerals and from nothing else. -/
theorem read?_int_eq_some_iff {l : Locale} {text : String} {v : Value} :
    read? l .int text = some v ↔ ∃ i, v = .int i ∧ IsInteger64 text i := by
  simp only [read?, Option.map_eq_some_iff, int?_eq_some_iff, IsInteger64, eq_comm (b := v), and_comm]

theorem read?_int_eq_none_iff {l : Locale} {text : String} :
    read? l .int text = none ↔ ∀ i, ¬ IsInteger64 text i := by
  simp only [Option.eq_none_iff_forall_ne_some, Ne, read?_int_eq_some_iff, not_exists, not_and]
  exact ⟨fun h i => h _ i rfl, fun h _ i _ => h i⟩

/-- A text is a numeral of one integer at most. -/
theorem isInteger64_unique {text : String} {i j : Int} (hi : IsInteger64 text i)
    (hj : IsInteger64 text j) : i = j :=
  Option.some.inj ((int?_eq_some_iff.2 hi).symm.trans (int?_eq_some_iff.2 hj))

/-- Every integer of 64 bits is read from its digits, with any number of zeros between them and its sign. -/
theorem read?_int_zeros (l : Locale) {i : Int} (hlower : -2 ^ 63 ≤ i) (hupper : i ≤ 2 ^ 63 - 1)
    (zeros : Nat) :
    read? l .int (String.ofList ((if i < 0 then ['-'] else []) ++ List.replicate zeros '0' ++
      Text.decimal i.natAbs)) = some (.int i) := by
  have hnumeral : IsNumeral (List.replicate zeros '0' ++ Text.decimal i.natAbs) i.natAbs :=
    Text.natural?_eq_some_iff_isNumeral.1 (Text.natural?_zeros_decimal zeros i.natAbs)
  rw [read?_int_eq_some_iff]
  refine ⟨i, rfl, ?_, hlower, hupper⟩
  rw [String.toList_ofList, List.append_assoc]
  by_cases hi : i < 0
  · have hnegative := IsInteger.negative hnumeral
    rw [if_pos hi]
    rwa [show -(i.natAbs : Int) = i by omega] at hnegative
  · have hnatural := IsInteger.natural hnumeral
    rw [if_neg hi]
    rwa [show (i.natAbs : Int) = i by omega] at hnatural

end Value

/-! ## Comparing -/

namespace Operator

/-- The relation of integers that an operator without an upper bound stands for. -/
def Relates : Operator → Int → Int → Prop
  | .equal, i, j => i = j
  | .notEqual, i, j => i ≠ j
  | .greaterThan, i, j => i > j
  | .lessThan, i, j => i < j
  | .greaterThanEqual, i, j => i ≥ j
  | .lessThanEqual, i, j => i ≤ j
  | .range, _, _ => False

instance (op : Operator) (i j : Int) : Decidable (op.Relates i j) :=
  match op with
  | .equal => inferInstanceAs (Decidable (i = j))
  | .notEqual => inferInstanceAs (Decidable (i ≠ j))
  | .greaterThan => inferInstanceAs (Decidable (i > j))
  | .lessThan => inferInstanceAs (Decidable (i < j))
  | .greaterThanEqual => inferInstanceAs (Decidable (i ≥ j))
  | .lessThanEqual => inferInstanceAs (Decidable (i ≤ j))
  | .range => inferInstanceAs (Decidable False)

theorem accepts_compare {op : Operator} (hop : op ≠ .range) (i j : Int) :
    op.accepts (Ord.compare i j) = decide (op.Relates i j) := by
  have hequal : (Ord.compare i j).isEq = true ↔ i = j := Ordering.isEq_iff_eq_eq.trans Int.compare_eq_eq
  rw [Bool.eq_iff_iff, decide_eq_true_eq]
  cases op with
  | equal => exact hequal
  | notEqual =>
      change (!(Ord.compare i j).isEq) = true ↔ ¬ i = j
      rw [Bool.not_eq_true', ← hequal, Bool.not_eq_true]
  | greaterThan => exact Ordering.isGT_iff_eq_gt.trans Int.compare_eq_gt
  | lessThan => exact Ordering.isLT_iff_eq_lt.trans Int.compare_eq_lt
  | greaterThanEqual => exact Int.isGE_compare
  | lessThanEqual => exact Int.isLE_compare
  | range => exact absurd rfl hop

end Operator

namespace Locale

variable {l : Locale} {a b m : String} {op : Operator} {v : Bool}

theorem order?_int_eq_some_iff {o : Ordering} :
    l.order? .int a b = some o ↔
      ∃ i j, IsInteger64 a i ∧ IsInteger64 b j ∧ Ord.compare i j = o := by
  rw [order?_eq_some_iff]
  constructor
  · rintro ⟨x, y, hx, hy, ho⟩
    rcases Value.read?_int_eq_some_iff.1 hx with ⟨i, rfl, hi⟩
    rcases Value.read?_int_eq_some_iff.1 hy with ⟨j, rfl, hj⟩
    exact ⟨i, j, hi, hj, Option.some.inj ho⟩
  · rintro ⟨i, j, hi, hj, rfl⟩
    exact ⟨.int i, .int j, Value.read?_int_eq_some_iff.2 ⟨i, rfl, hi⟩,
      Value.read?_int_eq_some_iff.2 ⟨j, rfl, hj⟩, rfl⟩

theorem accepts_int_eq_some_iff (hop : op ≠ .range) :
    (l.order? .int a b).map op.accepts = some v ↔
      ∃ i j, IsInteger64 a i ∧ IsInteger64 b j ∧ decide (op.Relates i j) = v := by
  rw [Option.map_eq_some_iff]
  constructor
  · rintro ⟨o, ho, hv⟩
    rcases order?_int_eq_some_iff.1 ho with ⟨i, j, hi, hj, rfl⟩
    exact ⟨i, j, hi, hj, (Operator.accepts_compare hop i j).symm.trans hv⟩
  · rintro ⟨i, j, hi, hj, hv⟩
    exact ⟨_, order?_int_eq_some_iff.2 ⟨i, j, hi, hj, rfl⟩,
      (Operator.accepts_compare hop i j).trans hv⟩

theorem between_int_eq_some_iff :
    ((l.order? .int a b).bind fun o =>
        (l.order? .int a m).map fun o' => o.isGE && o'.isLE) = some v ↔
      ∃ i j k, IsInteger64 a i ∧ IsInteger64 b j ∧ IsInteger64 m k ∧
        decide (j ≤ i ∧ i ≤ k) = v := by
  have hbetween : ∀ i j k : Int,
      ((Ord.compare i j).isGE && (Ord.compare i k).isLE) = decide (j ≤ i ∧ i ≤ k) := by
    intro i j k
    rw [Bool.eq_iff_iff, Bool.and_eq_true, Int.isGE_compare, Int.isLE_compare, decide_eq_true_eq]
  simp only [Option.bind_eq_some_iff, Option.map_eq_some_iff]
  constructor
  · rintro ⟨o, ho, o', ho', hv⟩
    rcases order?_int_eq_some_iff.1 ho with ⟨i, j, hi, hj, rfl⟩
    rcases order?_int_eq_some_iff.1 ho' with ⟨i', k, hi', hk, rfl⟩
    -- The text that is compared with both bounds is a numeral of one integer.
    obtain rfl := Value.isInteger64_unique hi hi'
    exact ⟨i, j, k, hi, hj, hk, (hbetween i j k).symm.trans hv⟩
  · rintro ⟨i, j, k, hi, hj, hk, hv⟩
    exact ⟨_, order?_int_eq_some_iff.2 ⟨i, j, hi, hj, rfl⟩,
      _, order?_int_eq_some_iff.2 ⟨i, k, hi, hk, rfl⟩, (hbetween i j k).trans hv⟩

/-- Comparisons of integers are those of the exact numbers that the texts are numerals of. -/
theorem compare_int (l : Locale) :
    (∀ a b op max, op ≠ .range →
      (l.compare .int a op b max = .ok .passed ↔
        ∃ i j, IsInteger64 a i ∧ IsInteger64 b j ∧ op.Relates i j) ∧
      (l.compare .int a op b max = .ok .failed ↔
        ∃ i j, IsInteger64 a i ∧ IsInteger64 b j ∧ ¬ op.Relates i j) ∧
      (l.compare .int a op b max = .ok .invalid ↔
        (∀ i, ¬ IsInteger64 a i) ∨ ∀ j, ¬ IsInteger64 b j)) ∧
    (∀ a b m,
      (l.compare .int a .range b (some m) = .ok .passed ↔
        ∃ i j k, IsInteger64 a i ∧ IsInteger64 b j ∧ IsInteger64 m k ∧ j ≤ i ∧ i ≤ k) ∧
      (l.compare .int a .range b (some m) = .ok .failed ↔
        ∃ i j k, IsInteger64 a i ∧ IsInteger64 b j ∧ IsInteger64 m k ∧ ¬ (j ≤ i ∧ i ≤ k)) ∧
      (l.compare .int a .range b (some m) = .ok .invalid ↔
        (∀ i, ¬ IsInteger64 a i) ∨ (∀ j, ¬ IsInteger64 b j) ∨ ∀ k, ¬ IsInteger64 m k)) ∧
    (∀ text i, Value.read? l .int text = some (.int i) ↔ IsInteger64 text i) ∧
    (∀ i : Int, -2 ^ 63 ≤ i → i ≤ 2 ^ 63 - 1 → ∀ zeros : Nat,
      Value.read? l .int (String.ofList ((if i < 0 then ['-'] else []) ++
        List.replicate zeros '0' ++ Text.decimal i.natAbs)) = some (.int i)) ∧
    Value.read? l .int "-0" = some (.int 0) := by
  refine ⟨?_, ?_, ?_, ?_, ?_⟩
  · intro a b op max hop
    refine ⟨?_, ?_, ?_⟩
    · rw [compare_of_ne_range hop, Except.ok.injEq, Outcome.ofVerdict_eq_passed_iff,
        accepts_int_eq_some_iff hop]
      simp only [decide_eq_true_eq]
    · rw [compare_of_ne_range hop, Except.ok.injEq, Outcome.ofVerdict_eq_failed_iff,
        accepts_int_eq_some_iff hop]
      simp only [decide_eq_false_iff_not]
    · rw [compare_eq_invalid_iff hop, Value.read?_int_eq_none_iff, Value.read?_int_eq_none_iff]
  · intro a b m
    refine ⟨?_, ?_, ?_⟩
    · rw [compare_range, Except.ok.injEq, Outcome.ofVerdict_eq_passed_iff, between_int_eq_some_iff]
      simp only [decide_eq_true_eq]
    · rw [compare_range, Except.ok.injEq, Outcome.ofVerdict_eq_failed_iff, between_int_eq_some_iff]
      simp only [decide_eq_false_iff_not]
    · rw [compare_range_eq_invalid_iff, Value.read?_int_eq_none_iff, Value.read?_int_eq_none_iff,
        Value.read?_int_eq_none_iff]
  · intro text i
    rw [Value.read?_int_eq_some_iff]
    simp
  · exact fun i hlower hupper zeros => Value.read?_int_zeros l hlower hupper zeros
  · rfl

/-- The limits of 64 bits are not the same on both sides of zero. -/
theorem compare_int_limits :
    Operator.lessThan ≠ .range ∧
      IsInteger64 "-009223372036854775808" (-9223372036854775808) ∧
      fr.compare .int "-009223372036854775808" .lessThan "9223372036854775807" none = .ok .passed ∧
      fr.compare .int "-009223372036854775808" .lessThan "9223372036854775808" none = .ok .invalid := by
  have hop : Operator.lessThan ≠ .range := by decide
  have hleast : IsInteger64 "-009223372036854775808" (-9223372036854775808) :=
    ((compare_int fr).2.2.1 _ _).1 (by decide +kernel)
  have hgreatest : IsInteger64 "9223372036854775807" 9223372036854775807 :=
    ((compare_int fr).2.2.1 _ _).1 (by decide +kernel)
  have hbeyond : ∀ j, ¬ IsInteger64 "9223372036854775808" j := by
    intro j hj
    have hnone : Value.read? fr .int "9223372036854775808" = none := by decide +kernel
    have hread := ((compare_int fr).2.2.1 _ _).2 hj
    rw [hnone] at hread
    cases hread
  have hlimits := (compare_int fr).1 "-009223372036854775808"
  exact ⟨hop, hleast, (hlimits _ _ none hop).1.2 ⟨_, _, hleast, hgreatest, by decide⟩,
    (hlimits _ _ none hop).2.2.2 (.inr hbeyond)⟩

end Locale
end FormValidation
