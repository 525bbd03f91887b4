import FormValidation.Pattern.Basic
import FormValidation.Proofs.Pattern.Language
import FormValidation.Proofs.Text.Email

/-!
# The pattern of email addresses

The pattern of addresses can match one text in many ways: it may take a word of two characters for two words
without a joiner between them, and the words at the end of a domain for words of its name.  What it matches
is the grammar of addresses nevertheless (`Email.isMatch_pattern_iff`), since words written one after the
other are a word.
-/

namespace FormValidation
namespace Email

open Pattern (CharClass Regex)

/-! ## The expression -/

/-- The class of the characters of words. -/
def wordClass : CharClass :=
  .union (.ranges [(0x30, 0x39)])
    (.union (.ranges [(0x41, 0x5a)]) (.union (.ranges [(0x61, 0x7a)]) (.single '_')))

def joinerClass : CharClass :=
  .union (.single '.') (.single '-')

/-- A word of so many characters or more. -/
def wordRegex (least : Nat) : Regex :=
  .rep (.char wordClass) least none true

/-- One more word, with at most one joiner before it. -/
def moreRegex (group : Nat) : Regex :=
  .group group (.concat [.rep (.char joinerClass) 0 (some 1) true, wordRegex 1])

/-- A word of two characters or more with a point before it. -/
def endingRegex : Regex :=
  .group 3 (.concat [.char (.single '.'), wordRegex 2])

/-- The stretches of an address. -/
def stretches : List Regex :=
  [wordRegex 1, .rep (moreRegex 1) 0 none true, .char (.single '@'),
    wordRegex 1, .rep (moreRegex 2) 0 none true, .rep endingRegex 1 none true]

def patternSource : String :=
  "^[0-9A-Za-z_]+([.-]?[0-9A-Za-z_]+)*@[0-9A-Za-z_]+([.-]?[0-9A-Za-z_]+)*" ++
    "(\\.[0-9A-Za-z_]\x7b2,\x7d)+$"

def pattern : Pattern :=
  ⟨patternSource, .concat (.assertion .textStart :: (stretches ++ [.assertion .textEnd]))⟩

/-- The pattern of addresses is what its text says. -/
theorem read?_patternSource : Pattern.read? patternSource = some pattern := by
  decide +kernel

/-! ## Words -/

theorem has_wordClass (c : Char) : wordClass.has c = true ↔ IsWordChar c := by
  have hchar : c = '_' ↔ c.toNat = 95 := Char.toNat_inj.symm
  simp only [wordClass, CharClass.has, CharClass.contains, CharClass.single, Unicode.Ranges.contains,
    List.any_cons, List.any_nil, Bool.or_false, Bool.or_eq_true, Bool.and_eq_true, decide_eq_true_eq,
    IsWordChar, hchar, Char.le_def, UInt32.le_iff_toNat_le, Char.toNat, Char.reduceVal, UInt32.reduceToNat]
  omega

theorem has_joinerClass (c : Char) : joinerClass.has c = true ↔ IsJoiner c := by
  have hunion : joinerClass.has c =
      ((CharClass.single '.').has c || (CharClass.single '-').has c) := rfl
  rw [hunion, Bool.or_eq_true, CharClass.has_single, CharClass.has_single]
  rfl

theorem mem_wordRegex {least : Nat} {w : List Char} :
    w ∈ (wordRegex least).language ↔ least ≤ w.length ∧ ∀ c ∈ w, IsWordChar c := by
  simp only [wordRegex, Regex.mem_language_rep_char, has_wordClass]

theorem mem_wordRegex_one {w : List Char} : w ∈ (wordRegex 1).language ↔ IsWord w := by
  rw [mem_wordRegex, IsWord, Nat.one_le_iff_ne_zero, Ne, List.length_eq_zero_iff]

theorem mem_wordRegex_two {w : List Char} :
    w ∈ (wordRegex 2).language ↔ IsWord w ∧ 2 ≤ w.length := by
  rw [mem_wordRegex, IsWord]
  constructor
  · rintro ⟨hlength, hw⟩
    exact ⟨⟨List.ne_nil_of_length_pos (by omega), hw⟩, hlength⟩
  · rintro ⟨⟨-, hw⟩, hlength⟩
    exact ⟨hlength, hw⟩

/-! ## Names -/

/-- A name ends in a word, so a word behind it makes that one longer. -/
theorem IsName.append_word {cs w : List Char} (h : IsName cs) (hw : IsWord w) : IsName (cs ++ w) := by
  cases h with
  | word hv => exact .word (hv.append hw)
  | @join cs v c hcs hc hv =>
      rw [List.append_assoc, List.cons_append]
      exact .join hcs hc (hv.append hw)

/-- One more word, with or without a joiner before it. -/
def IsMore (w : List Char) : Prop :=
  IsWord w ∨ ∃ c v, IsJoiner c ∧ IsWord v ∧ w = c :: v

theorem IsName.append_more {cs w : List Char} (h : IsName cs) (hw : IsMore w) : IsName (cs ++ w) := by
  rcases hw with hw | ⟨c, v, hc, hv, rfl⟩
  · exact h.append_word hw
  · exact .join h hc hv

theorem mem_moreRegex {w : List Char} {group : Nat} : w ∈ (moreRegex group).language ↔ IsMore w := by
  rw [moreRegex, Regex.language, Regex.language_concat, List.map_cons, List.map_singleton,
    List.prod_cons, List.prod_singleton, Language.mem_mul]
  constructor
  · rintro ⟨u, hu, v, hv, rfl⟩
    rw [mem_wordRegex_one] at hv
    rcases Regex.mem_language_optional.1 hu with rfl | ⟨c, rfl, hc⟩
    · exact .inl hv
    · exact .inr ⟨c, v, (has_joinerClass c).1 hc, hv, rfl⟩
  · rintro (hw | ⟨c, v, hc, hv, rfl⟩)
    · exact ⟨[], Regex.mem_language_optional.2 (.inl rfl), w, mem_wordRegex_one.2 hw, rfl⟩
    · exact ⟨[c], Regex.mem_language_optional.2 (.inr ⟨c, rfl, (has_joinerClass c).2 hc⟩), v,
        mem_wordRegex_one.2 hv, rfl⟩

/-- A name goes on as a name through stretches each of which makes a longer name of a name. -/
theorem IsName.append_pow {L : Language Char} (hL : ∀ cs w, IsName cs → w ∈ L → IsName (cs ++ w))
    {cs v : List Char} (hcs : IsName cs) {n : Nat} (hv : v ∈ L ^ n) : IsName (cs ++ v) := by
  induction n generalizing cs v with
  | zero =>
      obtain rfl : v = [] := (Language.mem_one _).1 hv
      rwa [List.append_nil]
  | succ n ih =>
      rw [pow_succ'] at hv
      rcases Language.mem_mul.1 hv with ⟨w, hw, u, hu, rfl⟩
      rw [← List.append_assoc]
      exact ih (hL cs w hcs hw) hu

/-- Names are what a word and further words match. -/
theorem mem_name {cs : List Char} {group : Nat} :
    cs ∈ (wordRegex 1).language * (Regex.rep (moreRegex group) 0 none true).language ↔ IsName cs := by
  constructor
  · intro h
    rcases Language.mem_mul.1 h with ⟨w, hw, v, hv, rfl⟩
    rcases Regex.mem_language_rep_none.1 hv with ⟨n, hv⟩
    refine IsName.append_pow (fun cs w hcs hw => ?_) (.word (mem_wordRegex_one.1 hw)) hv
    exact hcs.append_more (mem_moreRegex.1 hw)
  · intro h
    induction h with
    | @word w hw =>
        rw [← List.append_nil w]
        refine Language.append_mem_mul (mem_wordRegex_one.2 hw) (Regex.mem_language_rep_none.2 ⟨0, ?_⟩)
        exact (Language.mem_one _).2 rfl
    | @join cs w c _ hc hw ih =>
        rcases Language.mem_mul.1 ih with ⟨u, hu, v, hv, rfl⟩
        rcases Regex.mem_language_rep_none.1 hv with ⟨n, hn⟩
        rw [List.append_assoc]
        refine Language.append_mem_mul hu (Regex.mem_language_rep_none.2 ⟨n + 1, ?_⟩)
        rw [← Nat.add_assoc, pow_succ]
        exact Language.append_mem_mul hn (mem_moreRegex.2 (.inr ⟨c, w, hc, hw, rfl⟩))

/-! ## Domains -/

theorem mem_endingRegex {w : List Char} :
    w ∈ endingRegex.language ↔ ∃ last, IsWord last ∧ 2 ≤ last.length ∧ w = '.' :: last := by
  rw [endingRegex, Regex.language, Regex.language_concat, List.map_cons, List.map_singleton,
    List.prod_cons, List.prod_singleton, Language.mem_mul]
  constructor
  · rintro ⟨u, hu, v, hv, rfl⟩
    obtain rfl : u = ['.'] := Regex.mem_language_single.1 hu
    rcases mem_wordRegex_two.1 hv with ⟨hword, hlength⟩
    exact ⟨v, hword, hlength, rfl⟩
  · rintro ⟨last, hword, hlength, rfl⟩
    exact ⟨['.'], Regex.mem_language_single.2 rfl, last, mem_wordRegex_two.2 ⟨hword, hlength⟩, rfl⟩

/-- Domains are what a name and words of two characters or more match. -/
theorem mem_domain {cs : List Char} {group : Nat} :
    cs ∈ (wordRegex 1).language * (Regex.rep (moreRegex group) 0 none true).language *
        (Regex.rep endingRegex 1 none true).language ↔ IsDomain cs := by
  constructor
  · intro h
    rcases Language.mem_mul.1 h with ⟨name, hname, v, hv, rfl⟩
    rcases Regex.mem_language_rep_none.1 hv with ⟨n, hv⟩
    -- The words before the last one belong to the name.
    rw [Nat.add_comm, pow_succ] at hv
    rcases Language.mem_mul.1 hv with ⟨u, hu, w, hw, rfl⟩
    rcases mem_endingRegex.1 hw with ⟨last, hlast, hlength, rfl⟩
    refine ⟨name ++ u, last, ?_, hlast, hlength, (List.append_assoc _ _ _).symm⟩
    refine IsName.append_pow (fun cs w hcs hw => ?_) (mem_name.1 hname) hu
    rcases mem_endingRegex.1 hw with ⟨word, hword, -, rfl⟩
    exact .join hcs (.inl rfl) hword
  · rintro ⟨name, last, hname, hlast, hlength, rfl⟩
    refine Language.append_mem_mul (mem_name.2 hname) (Regex.mem_language_rep_none.2 ⟨0, ?_⟩)
    rw [Nat.add_zero, pow_one]
    exact mem_endingRegex.2 ⟨last, hlast, hlength, rfl⟩

/-! ## Addresses -/

/-- The pattern matches the addresses of the grammar and nothing else. -/
theorem isMatch_pattern_iff (s : String) : pattern.isMatch s = true ↔ IsAddress s.toList := by
  have hplain : ∀ r ∈ stretches, r.isPlain = true := by decide
  have hproduct : (stretches.map Regex.language).prod =
      (wordRegex 1).language * (Regex.rep (moreRegex 1) 0 none true).language *
        ((Regex.char (.single '@')).language *
          ((wordRegex 1).language * (Regex.rep (moreRegex 2) 0 none true).language *
            (Regex.rep endingRegex 1 none true).language)) := by
    simp only [stretches, List.map_cons, List.map_nil, List.prod_cons, List.prod_nil, mul_one, mul_assoc]
  rw [Pattern.isMatch, pattern, Regex.isMatch_whole hplain, hproduct, Language.mem_mul]
  constructor
  · rintro ⟨name, hname, rest, hrest, hs⟩
    rcases Language.mem_mul.1 hrest with ⟨u, hu, domain, hdomain, rfl⟩
    obtain rfl : u = ['@'] := Regex.mem_language_single.1 hu
    exact ⟨name, domain, mem_name.1 hname, mem_domain.1 hdomain, hs.symm⟩
  · rintro ⟨name, domain, hname, hdomain, hs⟩
    refine ⟨name, mem_name.2 hname, '@' :: domain, ?_, hs.symm⟩
    exact Language.append_mem_mul (a := ['@']) (Regex.mem_language_single.2 rfl) (mem_domain.2 hdomain)

/-- Matching the pattern and cutting the text recognize the same addresses. -/
theorem isMatch_pattern (s : String) : pattern.isMatch s = isAddress s := by
  rw [Bool.eq_iff_iff, isMatch_pattern_iff, isAddress_eq_true_iff]

end Email
end FormValidation
