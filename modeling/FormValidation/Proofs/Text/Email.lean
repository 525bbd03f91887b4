import Mathlib.Data.List.Chain
import Mathlib.Tactic.Tauto
import FormValidation.Proofs.Text.Numeral
import FormValidation.Proofs.Text.Pieces
import FormValidation.Text.Email

/-!
# The addresses that are recognized

`Email.IsAddress` says which texts are addresses, as a grammar, without saying how they are recognized.
Cutting a text at its signs `@` and its joiners recognizes exactly these texts
(`Email.isAddress_eq_true_iff`).

Words are free of joiners, and names are free of the sign `@`.  So an address is cut in one way only, and
holds nothing but letters, digits, underscores, joiners and a single sign (`Email.IsAddress.count_at`,
`Email.IsAddress.mem`).
-/

namespace FormValidation

/-! ## Cutting -/

namespace Text

variable {sep : Char} {cs : List Char}

/-- A text is cut into two if it holds one separator. -/
theorem splitChars_eq_pair_iff {a b : List Char} :
    splitChars sep cs = [a, b] ↔ cs = a ++ sep :: b ∧ sep ∉ a ∧ sep ∉ b := by
  constructor
  · intro h
    by_cases hsep : sep ∈ cs
    · rcases List.eq_append_cons_of_mem hsep with ⟨u, v, rfl, hu⟩
      rw [splitChars_append, splitChars_of_notMem hu] at h
      obtain ⟨rfl, hv⟩ : u = a ∧ splitChars sep v = [b] := by simpa using h
      by_cases hmore : sep ∈ v
      · -- A second separator would make a third piece.
        rcases List.eq_append_cons_of_mem hmore with ⟨u', v', rfl, hu'⟩
        rw [splitChars_append, splitChars_of_notMem hu'] at hv
        have hnone : splitChars sep v' = [] := by simpa using (List.cons.inj hv).2
        exact absurd hnone (splitChars_ne_nil sep v')
      · rw [splitChars_of_notMem hmore] at hv
        obtain rfl : v = b := by simpa using hv
        exact ⟨rfl, hu, hmore⟩
    · rw [splitChars_of_notMem hsep] at h
      cases h
  · rintro ⟨rfl, ha, hb⟩
    rw [splitChars_append, splitChars_of_notMem ha, splitChars_of_notMem hb]
    rfl

end Text

namespace Email

/-! ## The grammar -/

/-- The characters of words: ASCII digits and letters and the underscore. -/
def IsWordChar (c : Char) : Prop :=
  '0' ≤ c ∧ c ≤ '9' ∨ 'A' ≤ c ∧ c ≤ 'Z' ∨ 'a' ≤ c ∧ c ≤ 'z' ∨ c = '_'

def IsWord (w : List Char) : Prop :=
  w ≠ [] ∧ ∀ c ∈ w, IsWordChar c

def IsJoiner (c : Char) : Prop :=
  c = '.' ∨ c = '-'

/-- Words with a single joiner between each two. -/
inductive IsName : List Char → Prop
  | word {w : List Char} : IsWord w → IsName w
  | join {cs w : List Char} {c : Char} : IsName cs → IsJoiner c → IsWord w → IsName (cs ++ c :: w)

/-- A name that ends in a point and a word of two characters or more. -/
def IsDomain (cs : List Char) : Prop :=
  ∃ name last, IsName name ∧ IsWord last ∧ 2 ≤ last.length ∧ cs = name ++ '.' :: last

/-- A name and a domain with the sign `@` between them. -/
def IsAddress (cs : List Char) : Prop :=
  ∃ name domain, IsName name ∧ IsDomain domain ∧ cs = name ++ '@' :: domain

/-! ## Characters -/

theorem isWordChar_eq_true_iff (c : Char) : isWordChar c = true ↔ IsWordChar c := by
  have hupper : c.isUpper = true ↔ 'A' ≤ c ∧ c ≤ 'Z' := decide_eq_true_iff
  have hlower : c.isLower = true ↔ 'a' ≤ c ∧ c ≤ 'z' :=
    Bool.and_eq_true_iff.trans (and_congr decide_eq_true_iff decide_eq_true_iff)
  change (((c.isUpper || c.isLower) || c.isDigit) || c == '_') = true ↔ IsWordChar c
  simp only [IsWordChar, Bool.or_eq_true, beq_iff_eq, hupper, hlower, Text.isDigit_iff_le]
  tauto

theorem IsJoiner.not_isWordChar {c : Char} (h : IsJoiner c) : ¬ IsWordChar c := by
  rw [← isWordChar_eq_true_iff]
  rcases h with rfl | rfl <;> decide

theorem not_isWordChar_at : ¬ IsWordChar '@' := by
  rw [← isWordChar_eq_true_iff]
  decide

theorem isWord_eq_true_iff (w : List Char) : isWord w = true ↔ IsWord w := by
  simp [isWord, IsWord, isWordChar_eq_true_iff]

theorem IsWord.not_isJoiner {w : List Char} (hw : IsWord w) {c : Char} (hc : c ∈ w) : ¬ IsJoiner c :=
  fun hjoiner => hjoiner.not_isWordChar (hw.2 c hc)

theorem IsWord.append {v w : List Char} (hv : IsWord v) (hw : IsWord w) : IsWord (v ++ w) := by
  refine ⟨List.append_ne_nil_of_left_ne_nil hv.1 w, fun c hc => ?_⟩
  rcases List.mem_append.1 hc with hc | hc
  · exact hv.2 c hc
  · exact hw.2 c hc

/-! ## Names -/

theorem IsName.cons_join {w cs : List Char} {c : Char} (hw : IsWord w) (hc : IsJoiner c)
    (hcs : IsName cs) : IsName (w ++ c :: cs) := by
  induction hcs with
  | word hv => exact .join (.word hw) hc hv
  | @join cs v d _ hd hv ih =>
      rw [← List.cons_append, ← List.append_assoc]
      exact .join ih hd hv

theorem IsName.mem {cs : List Char} (h : IsName cs) : ∀ c ∈ cs, IsWordChar c ∨ IsJoiner c := by
  induction h with
  | word hw => exact fun c hc => .inl (hw.2 c hc)
  | @join cs w d _ hd hw ih =>
      intro c hc
      rcases List.mem_append.1 hc with hc | hc
      · exact ih c hc
      · rcases List.mem_cons.1 hc with rfl | hc
        · exact .inr hd
        · exact .inl (hw.2 c hc)

/-- Joiners stand between other characters only. -/
structure JoinersApart (cs : List Char) : Prop where
  first : ∀ c ∈ cs.head?, ¬ IsJoiner c
  last : ∀ c ∈ cs.getLast?, ¬ IsJoiner c
  apart : cs.IsChain fun c d => ¬ (IsJoiner c ∧ IsJoiner d)

theorem IsWord.joinersApart {w : List Char} (hw : IsWord w) : JoinersApart w where
  first _ hc := hw.not_isJoiner (List.mem_of_head? hc)
  last _ hc := hw.not_isJoiner (List.mem_of_getLast? hc)
  apart := List.Pairwise.isChain <| List.pairwise_of_forall_mem_list fun _ hc _ _ hjoiners =>
    hw.not_isJoiner hc hjoiners.1

theorem IsName.ne_nil {cs : List Char} (h : IsName cs) : cs ≠ [] := by
  cases h with
  | word hw => exact hw.1
  | join => simp

/-- A name neither begins nor ends with a joiner, nor has it two of them in a row. -/
theorem IsName.joinersApart {cs : List Char} (h : IsName cs) : JoinersApart cs := by
  induction h with
  | word hw => exact hw.joinersApart
  | @join cs w d hcs hd hw ih =>
      have hne : cs ≠ [] := hcs.ne_nil
      have hword := hw.joinersApart
      refine ⟨?_, ?_, ?_⟩
      · rw [List.head?_append_of_ne_nil _ hne]
        exact ih.first
      · rw [List.getLast?_append_of_ne_nil _ (List.cons_ne_nil _ _), List.getLast?_cons_of_ne_nil hw.1]
        exact hword.last
      · rw [List.isChain_append, List.isChain_cons]
        refine ⟨ih.apart, ⟨fun c hc hjoiners => hword.first c hc hjoiners.2, hword.apart⟩, ?_⟩
        exact fun c hc _ _ hjoiners => ih.last c hc hjoiners.1

theorem IsName.at_notMem {cs : List Char} (h : IsName cs) : '@' ∉ cs := by
  intro hat
  rcases h.mem _ hat with hword | hjoiner
  · exact not_isWordChar_at hword
  · rcases hjoiner with h | h <;> cases h

theorem parts_append {c : Char} (hc : IsJoiner c) (cs ds : List Char) :
    parts (cs ++ c :: ds) = parts cs ++ parts ds := by
  have hpoint : (if c = '-' then '.' else c) = '.' := by
    rcases hc with rfl | rfl <;> rfl
  rw [parts, List.map_append, List.map_cons, hpoint, Text.splitChars_append]
  rfl

theorem parts_of_forall {cs : List Char} (h : ∀ c ∈ cs, ¬ IsJoiner c) : parts cs = [cs] := by
  have hsame : cs.map (fun c => if c = '-' then '.' else c) = cs := by
    refine (List.map_congr_left fun c hc => ?_).trans (List.map_id cs)
    exact if_neg fun hhyphen => h c hc (.inr hhyphen)
  rw [parts, hsame]
  exact Text.splitChars_of_notMem fun hpoint => h _ hpoint (.inl rfl)

theorem IsWord.parts_eq {w : List Char} (hw : IsWord w) : parts w = [w] :=
  parts_of_forall fun _ => hw.not_isJoiner

/-- A text has no joiner, or a first one. -/
theorem forall_or_exists_joiner (cs : List Char) :
    (∀ c ∈ cs, ¬ IsJoiner c) ∨
      ∃ w c ds, cs = w ++ c :: ds ∧ IsJoiner c ∧ ∀ c ∈ w, ¬ IsJoiner c := by
  induction cs with
  | nil => exact .inl (by simp)
  | cons c cs ih =>
      by_cases hc : IsJoiner c
      · exact .inr ⟨[], c, cs, rfl, hc, by simp⟩
      · rcases ih with hnone | ⟨w, d, ds, rfl, hd, hw⟩
        · exact .inl (List.forall_mem_cons.2 ⟨hc, hnone⟩)
        · exact .inr ⟨c :: w, d, ds, rfl, hd, List.forall_mem_cons.2 ⟨hc, hw⟩⟩

theorem isName_eq_true_iff (cs : List Char) : isName cs = true ↔ IsName cs := by
  constructor
  · intro h
    -- By induction on the length, since cutting goes on behind the first joiner.
    induction hlength : cs.length using Nat.strong_induction_on generalizing cs with
    | _ n ih =>
        rcases forall_or_exists_joiner cs with hnone | ⟨w, c, ds, rfl, hc, hw⟩
        · rw [isName, parts_of_forall hnone, List.all_cons, List.all_nil, Bool.and_true] at h
          exact .word ((isWord_eq_true_iff cs).1 h)
        · rw [isName, parts_append hc, parts_of_forall hw, List.singleton_append, List.all_cons,
            Bool.and_eq_true] at h
          have hshorter : ds.length < n := by
            rw [← hlength, List.length_append, List.length_cons]
            omega
          exact .cons_join ((isWord_eq_true_iff w).1 h.1) hc (ih _ hshorter ds h.2 rfl)
  · intro h
    induction h with
    | word hw =>
        rw [isName, hw.parts_eq, List.all_cons, List.all_nil, Bool.and_true]
        exact (isWord_eq_true_iff _).2 hw
    | join _ hc hw ih =>
        rw [isName, parts_append hc, hw.parts_eq, List.all_append, List.all_cons, List.all_nil,
          Bool.and_true, Bool.and_eq_true]
        exact ⟨ih, (isWord_eq_true_iff _).2 hw⟩

/-! ## Domains -/

theorem IsDomain.isName {cs : List Char} (h : IsDomain cs) : IsName cs := by
  rcases h with ⟨name, last, hname, hlast, -, rfl⟩
  exact .join hname (.inl rfl) hlast

theorem isDomain_eq_true_iff (cs : List Char) : isDomain cs = true ↔ IsDomain cs := by
  constructor
  · intro h
    have hcut := List.takeWhile_append_dropWhile (p := isWordChar) (l := cs.reverse)
    unfold isDomain at h
    split at h
    · -- Read from the end, the domain is a run of word characters, a point and a name backwards.
      rename_i before hbehind
      rw [Bool.and_eq_true, decide_eq_true_eq, isName_eq_true_iff] at h
      refine ⟨before.reverse, (cs.reverse.takeWhile isWordChar).reverse, h.2, ⟨?_, ?_⟩, ?_, ?_⟩
      · intro hnil
        rw [List.reverse_eq_nil_iff] at hnil
        simp [hnil] at h
      · intro c hc
        exact (isWordChar_eq_true_iff c).1 (List.mem_takeWhile_imp (List.mem_reverse.1 hc))
      · rw [List.length_reverse]
        exact h.1
      · have hwhole : cs = (cs.reverse.takeWhile isWordChar ++ '.' :: before).reverse := by
          rw [← hbehind, hcut, List.reverse_reverse]
        exact hwhole.trans (by simp)
    · cases h
  · rintro ⟨name, last, hname, hlast, hlength, rfl⟩
    have hback : (name ++ '.' :: last).reverse = last.reverse ++ '.' :: name.reverse := by simp
    -- A point belongs to no word, so the last word ends at it.
    have hrun : ∀ c ∈ last.reverse, isWordChar c = true := fun c hc =>
      (isWordChar_eq_true_iff c).2 (hlast.2 c (List.mem_reverse.1 hc))
    have hpoint : ∀ c ∈ ('.' :: name.reverse).head?, isWordChar c = false := by
      rintro c ⟨⟩
      rfl
    have hcut := Text.takeWhile_append_of_head? hrun hpoint
    simp only [isDomain, hback, hcut.1, hcut.2, List.length_reverse, List.reverse_reverse,
      Bool.and_eq_true, decide_eq_true_eq]
    exact ⟨hlength, (isName_eq_true_iff name).2 hname⟩

/-! ## Addresses -/

/-- The addresses that are recognized are those of the grammar. -/
theorem isAddress_eq_true_iff (s : String) : isAddress s = true ↔ IsAddress s.toList := by
  constructor
  · intro h
    unfold isAddress at h
    split at h
    · rename_i name domain hcut
      rw [Bool.and_eq_true, isName_eq_true_iff, isDomain_eq_true_iff] at h
      exact ⟨name, domain, h.1, h.2, (Text.splitChars_eq_pair_iff.1 hcut).1⟩
    · cases h
  · rintro ⟨name, domain, hname, hdomain, hs⟩
    -- Neither part holds a sign of its own, so the text is cut into these two.
    have hcut : Text.splitChars '@' s.toList = [name, domain] :=
      Text.splitChars_eq_pair_iff.2 ⟨hs, hname.at_notMem, hdomain.isName.at_notMem⟩
    simp only [isAddress, hcut, Bool.and_eq_true]
    exact ⟨(isName_eq_true_iff name).2 hname, (isDomain_eq_true_iff domain).2 hdomain⟩

/-- An address holds the sign `@` once. -/
theorem IsAddress.count_at {cs : List Char} (h : IsAddress cs) : cs.count '@' = 1 := by
  rcases h with ⟨name, domain, hname, hdomain, rfl⟩
  rw [List.count_append, List.count_cons_self, List.count_eq_zero_of_not_mem hname.at_notMem,
    List.count_eq_zero_of_not_mem hdomain.isName.at_notMem]

/-- Every other character of an address belongs to a word or joins words. -/
theorem IsAddress.mem {cs : List Char} (h : IsAddress cs) :
    ∀ c ∈ cs, IsWordChar c ∨ IsJoiner c ∨ c = '@' := by
  rcases h with ⟨name, domain, hname, hdomain, rfl⟩
  intro c hc
  rcases List.mem_append.1 hc with hc | hc
  · exact (hname.mem c hc).imp_right .inl
  · rcases List.mem_cons.1 hc with rfl | hc
    · exact .inr (.inr rfl)
    · exact (hdomain.isName.mem c hc).imp_right .inl

end Email
end FormValidation
