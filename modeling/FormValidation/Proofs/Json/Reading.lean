import FormValidation.Proofs.Json.Tokens

/-!
# Reading the values that were written

A text spells a value if it is its tokens, one after the other, with any blanks between them (`Spells`).  Such a
text is read as the value (`read?_of_spells`), and an object with known keys also by the reader that skips
unknown ones (`readMembers?_of_spells`).
-/

namespace FormValidation
namespace Json

open Reader

/-! ## Blanks -/

/-- Characters that may stand between tokens. -/
def Blanks (b : List Char) : Prop :=
  ∀ c ∈ b, c = ' ' ∨ c = '\t' ∨ c = '\n' ∨ c = '\r'

/-- The character is no blank. -/
def IsSign (c : Char) : Prop :=
  c ≠ ' ' ∧ c ≠ '\t' ∧ c ≠ '\n' ∧ c ≠ '\r'

instance (c : Char) : Decidable (IsSign c) :=
  inferInstanceAs (Decidable (c ≠ ' ' ∧ c ≠ '\t' ∧ c ≠ '\n' ∧ c ≠ '\r'))

theorem blanks_nil : Blanks [] := by
  simp [Blanks]

theorem skipBlanks_append {b : List Char} (hb : Blanks b) (cs : List Char) :
    skipBlanks (b ++ cs) = skipBlanks cs := by
  induction b with
  | nil => rfl
  | cons c b ih =>
      have hc : c = ' ' ∨ c = '\t' ∨ c = '\n' ∨ c = '\r' := hb c List.mem_cons_self
      have hrest := ih fun c hc => hb c (List.mem_cons_of_mem _ hc)
      rcases hc with rfl | rfl | rfl | rfl <;> exact hrest

theorem skipBlanks_cons {c : Char} (hc : IsSign c) (cs : List Char) : skipBlanks (c :: cs) = c :: cs := by
  obtain ⟨h₁, h₂, h₃, h₄⟩ := hc
  simp [skipBlanks, h₁, h₂, h₃, h₄]

theorem skipBlanks_append_cons {b : List Char} (hb : Blanks b) {c : Char} (hc : IsSign c) (cs : List Char) :
    skipBlanks (b ++ c :: cs) = c :: cs := by
  rw [skipBlanks_append hb, skipBlanks_cons hc]

/-- A number does not go on with blanks, -/
theorem endsNumber_append {b rest : List Char} (hb : Blanks b) (hrest : EndsNumber rest) :
    EndsNumber (b ++ rest) := by
  cases b with
  | nil => exact hrest
  | cons c b =>
      intro d hd
      obtain rfl : c = d := by simpa using hd
      rcases hb c List.mem_cons_self with rfl | rfl | rfl | rfl <;> decide

/-- nor with what is behind a value in an array or an object. -/
theorem endsNumber_append_cons {b : List Char} (hb : Blanks b) {c : Char} (hc : c = ',' ∨ c = ']' ∨ c = '\x7d')
    (cs : List Char) : EndsNumber (b ++ c :: cs) := by
  refine endsNumber_append hb ?_
  intro d hd
  obtain rfl : c = d := by simpa using hd
  rcases hc with rfl | rfl | rfl <;> decide

theorem value_append {b : List Char} (hb : Blanks b) (careful : Bool) (fuel depth : Nat) (cs : List Char) :
    value careful fuel depth (b ++ cs) = value careful fuel depth cs := by
  cases fuel with
  | zero => rfl
  | succ fuel => rw [value, value, skipBlanks_append hb]

theorem items_append {b : List Char} (hb : Blanks b) (careful : Bool) (fuel depth : Nat) (cs : List Char) :
    items careful fuel depth (b ++ cs) = items careful fuel depth cs := by
  cases fuel with
  | zero => rfl
  | succ fuel => rw [items, items, value_append hb]

theorem members_append {b : List Char} (hb : Blanks b) (careful : Bool) (fuel depth : Nat)
    (cs : List Char) : members careful fuel depth (b ++ cs) = members careful fuel depth cs := by
  cases fuel with
  | zero => rfl
  | succ fuel => rw [members, members, skipBlanks_append hb]

/-! ## Spellings -/

/-- What a stretch of text stands for: a value, the items of an array from one on and the closing bracket, or
the members of an object from one on and the closing brace. -/
inductive Part where
  | value (j : Json)
  | items (l : List Json)
  | members (l : List (String × Json))

/-- The stretch of text stands for something that is nested at most so deep. -/
inductive Spells : Nat → List Char → Part → Prop where
  | null {d : Nat} : Spells d ['n', 'u', 'l', 'l'] (.value .null)
  | boolTrue {d : Nat} : Spells d ['t', 'r', 'u', 'e'] (.value (.bool true))
  | boolFalse {d : Nat} : Spells d ['f', 'a', 'l', 's', 'e'] (.value (.bool false))
  | natural {d n : Nat} (h : n < 0x10000000000000000) :
      Spells d (Text.decimal n) (.value (.num (.natural n)))
  | negative {d n : Nat} (hpos : 0 < n) (h : n ≤ 0x8000000000000000) :
      Spells d ('-' :: Text.decimal n) (.value (.num (.negative n)))
  | str {d : Nat} {s : String} : Spells d (Printer.string s) (.value (.str s))
  | emptyArr {d : Nat} {b : List Char} (hb : Blanks b) :
      Spells (d + 1) ('[' :: (b ++ [']'])) (.value (.arr []))
  | arr {d : Nat} {b cs : List Char} {l : List Json} (hb : Blanks b) (h : Spells d cs (.items l)) :
      Spells (d + 1) ('[' :: (b ++ cs)) (.value (.arr l))
  | emptyObj {d : Nat} {b : List Char} (hb : Blanks b) :
      Spells (d + 1) ('\x7b' :: (b ++ ['\x7d'])) (.value (.obj []))
  | obj {d : Nat} {b cs : List Char} {l : List (String × Json)} (hb : Blanks b)
      (h : Spells d cs (.members l)) : Spells (d + 1) ('\x7b' :: (b ++ cs)) (.value (.obj l))
  | lastItem {d : Nat} {cs b : List Char} {j : Json} (h : Spells d cs (.value j)) (hb : Blanks b) :
      Spells d (cs ++ (b ++ [']'])) (.items [j])
  | item {d : Nat} {cs b b' cs' : List Char} {j : Json} {l : List Json} (h : Spells d cs (.value j))
      (hb : Blanks b) (hb' : Blanks b') (hl : Spells d cs' (.items l)) :
      Spells d (cs ++ (b ++ ',' :: (b' ++ cs'))) (.items (j :: l))
  | lastMember {d : Nat} (key : String) {a a' cs b : List Char} {j : Json} (ha : Blanks a) (ha' : Blanks a')
      (h : Spells d cs (.value j)) (hb : Blanks b) :
      Spells d (Printer.string key ++ (a ++ ':' :: (a' ++ (cs ++ (b ++ ['\x7d']))))) (.members [(key, j)])
  | member {d : Nat} (key : String) {a a' cs b b' cs' : List Char} {j : Json} {l : List (String × Json)}
      (ha : Blanks a) (ha' : Blanks a') (h : Spells d cs (.value j)) (hb : Blanks b) (hb' : Blanks b')
      (hl : Spells d cs' (.members l)) :
      Spells d (Printer.string key ++ (a ++ ':' :: (a' ++ (cs ++ (b ++ ',' :: (b' ++ cs'))))))
        (.members ((key, j) :: l))

/-! ## Reading -/

/-- Characters that a value may begin with. -/
def Opens (c : Char) : Prop :=
  IsSign c ∧ c ≠ ']' ∧ c ≠ '\x7d'

instance (c : Char) : Decidable (Opens c) :=
  inferInstanceAs (Decidable (IsSign c ∧ c ≠ ']' ∧ c ≠ '\x7d'))

theorem opens_of_isDigit {c : Char} (h : c.isDigit = true) : Opens c := by
  refine ⟨⟨?_, ?_, ?_, ?_⟩, ?_, ?_⟩ <;>
    · rintro rfl
      exact absurd h (by decide)

theorem exists_decimal_eq_cons (n : Nat) : ∃ c cs, Text.decimal n = c :: cs ∧ c.isDigit = true := by
  rcases List.exists_cons_of_ne_nil (Nat.toDigits_ne_nil (n := n) (b := 10)) with ⟨c, cs, hcs⟩
  have hmem : c ∈ Nat.toDigits 10 n := by
    rw [hcs]
    exact List.mem_cons_self
  exact ⟨c, cs, hcs, Nat.isDigit_of_mem_toDigits (by decide) (by decide) hmem⟩

/-- Nothing but a number begins with a digit. -/
theorem value_of_isDigit {c : Char} (h : c.isDigit = true) (careful : Bool) (fuel depth : Nat)
    (cs : List Char) : value careful (fuel + 1) depth (c :: cs) = number careful false (c :: cs) := by
  rw [value, skipBlanks_cons (opens_of_isDigit h).1]
  split
  case h_8 => rfl
  all_goals
    rename_i heq
    cases heq
    exact absurd h (by decide)

theorem value_emptyArr {b : List Char} (hb : Blanks b) (fuel depth : Nat) (rest : List Char) :
    value true (fuel + 1) (depth + 1) ('[' :: (b ++ ']' :: rest)) = some (.arr [], rest) := by
  rw [value, skipBlanks_cons (by decide)]
  simp only [Nat.add_eq_zero_iff, beq_iff_eq, Bool.true_and]
  rw [skipBlanks_append_cons hb (by decide)]
  simp

theorem value_arr {b : List Char} (hb : Blanks b) {c : Char} (hc : Opens c) (fuel depth : Nat)
    (cs : List Char) :
    value true (fuel + 1) (depth + 1) ('[' :: (b ++ c :: cs)) =
      (items true fuel depth (c :: cs)).map fun r => (.arr r.1, r.2) := by
  rw [value, skipBlanks_cons (by decide)]
  simp only [Nat.add_eq_zero_iff, beq_iff_eq, Bool.true_and]
  rw [skipBlanks_append_cons hb hc.1]
  split
  · simp at *
  · split
    · rename_i heq
      exact absurd (List.cons.inj heq).1 hc.2.1
    · rfl

theorem value_emptyObj {b : List Char} (hb : Blanks b) (fuel depth : Nat) (rest : List Char) :
    value true (fuel + 1) (depth + 1) ('\x7b' :: (b ++ '\x7d' :: rest)) = some (.obj [], rest) := by
  rw [value, skipBlanks_cons (by decide)]
  simp only [Nat.add_eq_zero_iff, beq_iff_eq, Bool.true_and]
  rw [skipBlanks_append_cons hb (by decide)]
  simp

theorem value_obj {b : List Char} (hb : Blanks b) {c : Char} (hc : Opens c) (fuel depth : Nat)
    (cs : List Char) :
    value true (fuel + 1) (depth + 1) ('\x7b' :: (b ++ c :: cs)) =
      (members true fuel depth (c :: cs)).map fun r => (.obj r.1, r.2) := by
  rw [value, skipBlanks_cons (by decide)]
  simp only [Nat.add_eq_zero_iff, beq_iff_eq, Bool.true_and]
  rw [skipBlanks_append_cons hb hc.1]
  split
  · simp at *
  · split
    · rename_i heq
      exact absurd (List.cons.inj heq).1 hc.2.2
    · rfl

/-- The last item stands before a closing bracket. -/
theorem items_last {fuel depth : Nat} {cs b rest : List Char} {j : Json} (hb : Blanks b)
    (h : value true fuel depth cs = some (j, b ++ ']' :: rest)) :
    items true (fuel + 1) depth cs = some ([j], rest) := by
  rw [items, h]
  simp only [Option.bind_eq_bind, Option.bind_some]
  rw [skipBlanks_append_cons hb (by decide)]
  rfl

/-- Another item stands before a comma. -/
theorem items_cons {fuel depth : Nat} {cs b cs' rest : List Char} {j : Json} {l : List Json}
    (hb : Blanks b) (h : value true fuel depth cs = some (j, b ++ ',' :: cs'))
    (hl : items true fuel depth cs' = some (l, rest)) :
    items true (fuel + 1) depth cs = some (j :: l, rest) := by
  rw [items, h]
  simp only [Option.bind_eq_bind, Option.bind_some]
  rw [skipBlanks_append_cons hb (by decide)]
  simp only [hl, Option.bind_some]
  rfl

/-- The last member stands before a closing brace. -/
theorem members_last (key : String) {fuel depth : Nat} {a cs b rest : List Char} {j : Json} (ha : Blanks a)
    (hb : Blanks b) (h : value true fuel depth cs = some (j, b ++ '\x7d' :: rest)) :
    members true (fuel + 1) depth (Printer.string key ++ (a ++ ':' :: cs)) = some ([(key, j)], rest) := by
  rw [string_append, members, skipBlanks_cons (by decide)]
  simp only [Option.bind_eq_bind, string_flatMap_char, Option.bind_some]
  rw [skipBlanks_append_cons ha (by decide)]
  simp only [h, Option.bind_some]
  rw [skipBlanks_append_cons hb (by decide), String.ofList_toList]
  rfl

/-- Another member stands before a comma. -/
theorem members_cons (key : String) {fuel depth : Nat} {a cs b cs' rest : List Char} {j : Json}
    {l : List (String × Json)} (ha : Blanks a) (hb : Blanks b)
    (h : value true fuel depth cs = some (j, b ++ ',' :: cs'))
    (hl : members true fuel depth cs' = some (l, rest)) :
    members true (fuel + 1) depth (Printer.string key ++ (a ++ ':' :: cs)) =
      some ((key, j) :: l, rest) := by
  rw [string_append, members, skipBlanks_cons (by decide)]
  simp only [Option.bind_eq_bind, string_flatMap_char, Option.bind_some]
  rw [skipBlanks_append_cons ha (by decide)]
  simp only [h, Option.bind_some]
  rw [skipBlanks_append_cons hb (by decide)]
  simp only [hl, Option.bind_some, String.ofList_toList]
  rfl

namespace Spells

variable {d : Nat} {cs : List Char} {part : Part}

theorem exists_cons (h : Spells d cs part) : ∃ c cs', cs = c :: cs' ∧ Opens c := by
  induction h with
  | natural =>
      rename_i n _
      rcases exists_decimal_eq_cons n with ⟨c, cs, hcs, hc⟩
      exact ⟨c, cs, hcs, opens_of_isDigit hc⟩
  | lastItem _ _ ih | item _ _ _ _ ih _ =>
      rcases ih with ⟨c, cs', rfl, hc⟩
      exact ⟨c, _, rfl, hc⟩
  | _ => exact ⟨_, _, rfl, by decide⟩

end Spells

/-- The text is read as the part, whatever is behind it, in two steps for each of its characters. -/
def Part.Read (d : Nat) (cs : List Char) : Part → Prop
  | .value j => ∀ fuel rest, 2 * cs.length ≤ fuel → EndsNumber rest →
      Reader.value true fuel d (cs ++ rest) = some (j, rest)
  | .items l => ∀ fuel rest, 2 * cs.length ≤ fuel + 1 →
      Reader.items true fuel d (cs ++ rest) = some (l, rest)
  | .members l => ∀ fuel rest, 2 * cs.length ≤ fuel + 1 →
      Reader.members true fuel d (cs ++ rest) = some (l, rest)

/-- What spells a part is read as the part. -/
theorem Spells.read {d : Nat} {cs : List Char} {part : Part} (h : Spells d cs part) : part.Read d cs := by
  -- A part and the parts within it are read by one recursion, so one induction serves all three readers.
  induction h with
  | null | boolTrue | boolFalse =>
      intro fuel rest hfuel _
      cases fuel with
      | zero => simp at hfuel
      | succ fuel => rfl
  | natural hn =>
      rename_i d n
      intro fuel rest hfuel hrest
      rcases exists_decimal_eq_cons n with ⟨c, cs, hcs, hc⟩
      cases fuel with
      | zero => simp [hcs] at hfuel
      | succ fuel =>
          have hnumber := number_natural hn hrest
          rw [hcs] at hnumber ⊢
          rw [← hnumber]
          exact value_of_isDigit hc _ _ _ _
  | negative hpos hn =>
      intro fuel rest hfuel hrest
      cases fuel with
      | zero => simp at hfuel
      | succ fuel => exact number_negative hpos hn hrest
  | str =>
      rename_i d s
      intro fuel rest hfuel _
      cases fuel with
      | zero => simp [Printer.string] at hfuel
      | succ fuel =>
          rw [string_append]
          show (string true none (s.toList.flatMap Printer.char ++ '"' :: rest)).map _ = _
          rw [string_flatMap_char, Option.map_some]
          simp only [String.ofList_toList]
  | emptyArr hb =>
      intro fuel rest hfuel _
      cases fuel with
      | zero => simp at hfuel
      | succ fuel =>
          rw [List.cons_append, List.append_assoc]
          exact value_emptyArr hb fuel _ rest
  | arr hb h ih =>
      intro fuel rest hfuel _
      rcases h.exists_cons with ⟨c, cs, rfl, hc⟩
      cases fuel with
      | zero => simp at hfuel
      | succ fuel =>
          have hitems := ih fuel rest (by simp at hfuel ⊢; omega)
          rw [List.cons_append] at hitems
          rw [List.cons_append, List.append_assoc, List.cons_append, value_arr hb hc, hitems]
          rfl
  | emptyObj hb =>
      intro fuel rest hfuel _
      cases fuel with
      | zero => simp at hfuel
      | succ fuel =>
          rw [List.cons_append, List.append_assoc]
          exact value_emptyObj hb fuel _ rest
  | obj hb h ih =>
      intro fuel rest hfuel _
      rcases h.exists_cons with ⟨c, cs, rfl, hc⟩
      cases fuel with
      | zero => simp at hfuel
      | succ fuel =>
          have hmembers := ih fuel rest (by simp at hfuel ⊢; omega)
          rw [List.cons_append] at hmembers
          rw [List.cons_append, List.append_assoc, List.cons_append, value_obj hb hc, hmembers]
          rfl
  | lastItem _ hb ih =>
      rename_i d cs b j _
      intro fuel rest hfuel
      cases fuel with
      | zero => simp at hfuel; omega
      | succ fuel =>
          -- A number among the items ends before the bracket.
          have hvalue := ih fuel (b ++ ']' :: rest) (by simp at hfuel; omega)
            (endsNumber_append_cons hb (by simp) rest)
          rw [List.append_assoc, List.append_assoc]
          exact items_last hb hvalue
  | item _ hb hb' _ ih ihl =>
      rename_i d cs b b' cs' j l _ _
      intro fuel rest hfuel
      cases fuel with
      | zero => simp at hfuel; omega
      | succ fuel =>
          have hvalue := ih fuel (b ++ ',' :: (b' ++ (cs' ++ rest))) (by simp at hfuel; omega)
            (endsNumber_append_cons hb (by simp) _)
          have hitems := ihl fuel rest (by simp at hfuel; omega)
          -- The blanks behind the comma are passed over with the next item.
          rw [← items_append hb'] at hitems
          rw [List.append_assoc, List.append_assoc, List.cons_append, List.append_assoc]
          exact items_cons hb hvalue hitems
  | lastMember key ha ha' _ hb ih =>
      rename_i d a a' cs b j _
      intro fuel rest hfuel
      cases fuel with
      | zero => simp at hfuel; omega
      | succ fuel =>
          have hvalue := ih fuel (b ++ '\x7d' :: rest) (by simp at hfuel; omega)
            (endsNumber_append_cons hb (by simp) rest)
          rw [← value_append ha'] at hvalue
          have hmembers := members_last key ha hb hvalue
          simpa using hmembers
  | member key ha ha' _ hb hb' _ ih ihl =>
      rename_i d a a' cs b b' cs' j l _ _
      intro fuel rest hfuel
      cases fuel with
      | zero => simp at hfuel; omega
      | succ fuel =>
          have hvalue := ih fuel (b ++ ',' :: (b' ++ (cs' ++ rest))) (by simp at hfuel; omega)
            (endsNumber_append_cons hb (by simp) _)
          have hrest := ihl fuel rest (by simp at hfuel; omega)
          rw [← value_append ha'] at hvalue
          rw [← members_append hb'] at hrest
          have hmembers := members_cons key ha hb hvalue hrest
          simpa using hmembers

/-! ## Whole texts -/

theorem skipBlanks_of_blanks {b : List Char} (hb : Blanks b) : skipBlanks b = [] := by
  have happend := skipBlanks_append hb []
  rwa [List.append_nil] at happend

/-- Members whose keys are known are read with care. -/
theorem membersOf_of_members {known : List String} {fuel depth : Nat} {cs rest : List Char}
    {l : List (String × Json)} (h : members true fuel depth cs = some (l, rest))
    (hknown : ∀ m ∈ l, known.contains m.1 = true) : membersOf known fuel depth cs = some (l, rest) := by
  induction fuel generalizing cs l with
  | zero => cases h
  | succ fuel ih =>
      -- Both readers take the same steps; they differ in how a value is read whose key is not known.
      rw [members] at h
      rw [membersOf]
      split at h
      · rename_i cs₁ hskip
        rcases Option.bind_eq_some_iff.1 h with ⟨⟨key, cs₂⟩, hkey, h⟩
        simp only at h
        split at h
        · rename_i cs₃ hcolon
          rcases Option.bind_eq_some_iff.1 h with ⟨⟨j, cs₄⟩, hvalue, h⟩
          simp only at h
          split at h
          · rename_i cs₅ hcomma
            rcases Option.bind_eq_some_iff.1 h with ⟨⟨l', cs₆⟩, hrest, h⟩
            cases h
            have hhead := hknown _ List.mem_cons_self
            have htail := ih hrest fun m hm => hknown m (List.mem_cons_of_mem _ hm)
            simp only [hkey, hcolon, hhead, hvalue, hcomma, htail, Option.bind_eq_bind,
              Option.bind_some]
            rfl
          · rename_i cs₅ hbrace
            cases h
            have hhead := hknown _ List.mem_cons_self
            simp only [hkey, hcolon, hhead, hvalue, hbrace, Option.bind_eq_bind, Option.bind_some]
            rfl
          · cases h
        · cases h
      · cases h

/-- A text that spells a value, with blanks around it, is read as the value. -/
theorem read?_of_spells {cs b b' : List Char} {j : Json} (h : Spells depthLimit cs (.value j))
    (hb : Blanks b) (hb' : Blanks b') :
    read? (String.ofList (b ++ (cs ++ b'))) = some j := by
  have hfuel : 2 * cs.length ≤ enough (b ++ (cs ++ b')) := by
    simp [enough]
    omega
  have hends : EndsNumber (b' ++ []) := endsNumber_append hb' endsNumber_nil
  rw [List.append_nil] at hends
  have hvalue := h.read (enough (b ++ (cs ++ b'))) b' hfuel hends
  rw [read?, whole, String.toList_ofList, value_append hb, hvalue]
  simp [skipBlanks_of_blanks hb']

/-- A text that spells an object whose keys are all known is read as the object. -/
theorem readMembers?_of_spells {known : List String} {b cs : List Char}
    {l : List (String × Json)} (hb : Blanks b) (h : Spells (depthLimit - 1) cs (.members l))
    (hknown : ∀ m ∈ l, known.contains m.1 = true) :
    readMembers? known (String.ofList ('\x7b' :: (b ++ cs))) = some (.obj l) := by
  -- Only the text behind the blanks counts for the number of steps.
  rcases h.exists_cons with ⟨c, cs', rfl, hc⟩
  have hfuel : 2 * (c :: cs').length ≤ enough (c :: cs') + 1 := by
    simp only [enough]
    omega
  have hmembers := h.read (enough (c :: cs')) [] hfuel
  rw [List.append_nil] at hmembers
  have hmembersOf := membersOf_of_members hmembers hknown
  rw [readMembers?, whole, String.toList_ofList, skipBlanks_cons (by decide)]
  simp only [skipBlanks_append_cons hb hc.1]
  split
  · rename_i heq
    exact absurd (List.cons.inj heq).1 hc.2.2
  · rw [hmembersOf]
    rfl

end Json
end FormValidation
