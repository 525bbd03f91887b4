import FormValidation.Json.Printer
import FormValidation.Json.Reader
import FormValidation.Proofs.Text.Numeral
import FormValidation.Proofs.Text.Pieces

/-!
# Reading the tokens that were written

Strings are read as they were written (`string_flatMap_char`), and so are integers of 64 bits if no other number
is behind them (`number_natural`, `number_negative`).
-/

namespace FormValidation
namespace Json
namespace Reader

/-! ## Characters -/

/-- A digit is read as it was written. -/
theorem hexDigit?_hexDigit : ∀ n < 16, hexDigit? (Printer.hexDigit n) = some n := by
  decide

theorem hexFour?_char {c : Char} (h : c.toNat < 0x20) :
    hexFour? '0' '0' (Printer.hexDigit (c.toNat / 16)) (Printer.hexDigit (c.toNat % 16)) =
      some c.toNat := by
  have hzero : hexDigit? '0' = some 0 := rfl
  have hhigh : hexDigit? (Printer.hexDigit (c.toNat / 16)) = some (c.toNat / 16) :=
    hexDigit?_hexDigit _ (by omega)
  have hlow : hexDigit? (Printer.hexDigit (c.toNat % 16)) = some (c.toNat % 16) :=
    hexDigit?_hexDigit _ (by omega)
  have hsum : 4096 * 0 + 256 * 0 + 16 * (c.toNat / 16) + c.toNat % 16 = c.toNat := by omega
  rw [hexFour?, hzero, hhigh, hlow]
  exact congrArg some hsum

/-- The two characters of an escape stand for one. -/
theorem string_escape {e c : Char} (h : escape? e = some c) (hu : e ≠ 'u') (cs : List Char) :
    string true none ('\\' :: e :: cs) = (string true none cs).map (consChar c) := by
  rw [string]
  · intro a b c d cs' heq
    exact absurd heq hu
  · exact h

theorem string_plain {c : Char} (h : 0x20 ≤ c.toNat) (hquote : c ≠ '"') (hbackslash : c ≠ '\\')
    (cs : List Char) : string true none (c :: cs) = (string true none cs).map (consChar c) := by
  have hsmall : decide (c.toNat < 0x20) = false := decide_eq_false (Nat.not_lt.2 h)
  have hother : (c == '\\') = false := beq_eq_false_iff_ne.2 hbackslash
  rw [string]
  · simp [hsmall, hother]
  · exact hquote
  · intro a b c d cs' heq
    exact absurd heq hbackslash
  · intro e cs' heq
    exact absurd heq hbackslash

theorem string_control {c : Char} (h : c.toNat < 0x20) (cs : List Char) :
    string true none ('\\' :: 'u' :: '0' :: '0' :: Printer.hexDigit (c.toNat / 16) ::
      Printer.hexDigit (c.toNat % 16) :: cs) = (string true none cs).map (consChar c) := by
  rw [string, hexFour?_char h]
  have h1 : ¬(0xd800 ≤ c.toNat) := by omega
  have h2 : ¬(0xdc00 ≤ c.toNat) := by omega
  simp [h1, h2]

/-- A character is read as it was written. -/
theorem string_char (c : Char) (cs : List Char) :
    string true none (Printer.char c ++ cs) = (string true none cs).map (consChar c) := by
  unfold Printer.char
  split
  iterate 7 exact string_escape rfl (by decide) cs
  rename_i hquote hbackslash _ _ _ _ _
  by_cases h : c.toNat < 0x20
  · rw [if_pos h]
    exact string_control h cs
  · rw [if_neg h]
    exact string_plain (Nat.le_of_not_lt h) hquote hbackslash cs

theorem string_append (s : String) (rest : List Char) :
    Printer.string s ++ rest = '"' :: (s.toList.flatMap Printer.char ++ '"' :: rest) := by
  simp [Printer.string]

/-- A string is read as it was written. -/
theorem string_flatMap_char (s rest : List Char) :
    string true none (s.flatMap Printer.char ++ '"' :: rest) = some (s, rest) := by
  induction s with
  | nil => rfl
  | cons c s ih =>
      rw [List.flatMap_cons, List.append_assoc, string_char, ih]
      rfl

/-! ## Numbers -/

/-- No number goes on with the text. -/
def EndsNumber (rest : List Char) : Prop :=
  ∀ c ∈ rest.head?, c.isDigit = false ∧ c ≠ '.' ∧ c ≠ 'e' ∧ c ≠ 'E'

theorem endsNumber_nil : EndsNumber [] := by
  simp [EndsNumber]

theorem fractionPart_of_endsNumber {rest : List Char} (h : EndsNumber rest) :
    fractionPart rest = some (none, rest) := by
  cases rest with
  | nil => rfl
  | cons c rest =>
      have hc : c ≠ '.' := (h c rfl).2.1
      rw [fractionPart]
      intro digits heq
      exact hc (List.cons.inj heq).1

theorem exponentPart_of_endsNumber {rest : List Char} (h : EndsNumber rest) :
    exponentPart rest = some (none, rest) := by
  cases rest with
  | nil => rfl
  | cons c rest =>
      have hsmall : (c == 'e') = false := beq_eq_false_iff_ne.2 (h c rfl).2.2.1
      have hcapital : (c == 'E') = false := beq_eq_false_iff_ne.2 (h c rfl).2.2.2
      have hnone : ¬(c == 'e' || c == 'E') = true := by
        rw [hsmall, hcapital]
        exact Bool.false_ne_true
      exact if_neg hnone

/-- A number that is not zero does not begin with a zero. -/
theorem head?_decimal_ne_zero {n : Nat} (h : n ≠ 0) : (Text.decimal n).head? ≠ some '0' := by
  induction n using Nat.strongRecOn with
  | ind n ih =>
      by_cases hsmall : n < 10
      · have hdigit : ∀ n < 10, n ≠ 0 → Nat.digitChar n ≠ '0' := by decide
        rw [Text.decimal, Nat.toDigits_of_lt_base hsmall]
        intro heq
        exact hdigit n hsmall h (Option.some.inj heq)
      · -- The first digit is that of the number without its last digit.
        have hbase : 10 ≤ n := Nat.le_of_not_lt hsmall
        have hhead : (Text.decimal n).head? = (Text.decimal (n / 10)).head? := by
          rw [Text.decimal, Nat.toDigits_of_base_le (by decide) hbase, List.head?_append]
          exact Option.or_of_isSome (List.isSome_head?.2 Nat.toDigits_ne_nil)
        rw [hhead]
        exact ih (n / 10) (by omega) (by omega)

/-- A whole number is read as it was written, up to the sign. -/
theorem number_decimal {rest : List Char} (h : EndsNumber rest) (negative : Bool) (n : Nat) :
    number true negative (Text.decimal n ++ rest) =
      (number? negative (Text.decimal n) none none).map fun x => (.num x, rest) := by
  have hdigits : ∀ c ∈ Text.decimal n, c.isDigit = true :=
    fun c hc => Nat.isDigit_of_mem_toDigits (by decide) (by decide) hc
  have hrest : ∀ c ∈ rest.head?, c.isDigit = false := fun c hc => (h c hc).1
  rcases Text.takeWhile_append_of_head? hdigits hrest with ⟨htake, hdrop⟩
  have hwhole : ((Text.decimal n).isEmpty ||
      ((Text.decimal n).head? == some '0' && (Text.decimal n).length != 1)) = false := by
    have hne : (Text.decimal n).isEmpty = false :=
      List.isEmpty_eq_false_iff.2 Nat.toDigits_ne_nil
    by_cases hzero : n = 0
    · subst hzero
      rfl
    · have hhead : ((Text.decimal n).head? == some '0') = false :=
        beq_eq_false_iff_ne.2 (head?_decimal_ne_zero hzero)
      rw [hne, hhead]
      rfl
  rw [number, htake, hdrop, hwhole, fractionPart_of_endsNumber h]
  simp only [Bool.false_eq_true, if_false, Option.pure_def, Option.bind_eq_bind, Option.bind_some,
    exponentPart_of_endsNumber h, if_true]
  cases number? negative (Text.decimal n) none none <;> rfl

/-- A natural number of 64 bits is read as it was written. -/
theorem number_natural {n : Nat} (hn : n < 0x10000000000000000) {rest : List Char} (h : EndsNumber rest) :
    number true false (Text.decimal n ++ rest) = some (.num (.natural n), rest) := by
  have hvalue : Nat.ofDigitChars 10 (Text.decimal n) 0 = n := Nat.ofDigitChars_ten_toDigits
  rw [number_decimal h]
  simp [number?, hvalue, hn]

/-- A negative number of 64 bits is read as it was written. -/
theorem number_negative {n : Nat} (hpos : 0 < n) (hn : n ≤ 0x8000000000000000) {rest : List Char}
    (h : EndsNumber rest) :
    number true true (Text.decimal n ++ rest) = some (.num (.negative n), rest) := by
  have hvalue : Nat.ofDigitChars 10 (Text.decimal n) 0 = n := Nat.ofDigitChars_ten_toDigits
  rw [number_decimal h]
  simp [number?, hvalue, hpos, hn]

end Reader
end Json
end FormValidation
