import FormValidation.Locale.Date

/-!
# Scanning dates

A reader of dates that goes through the text from left to right and never back.  A date is three runs of
digits with signs between them and optionally a time of day (`DateScan.fields?`); where it is written in
the international way the first run is the year, else the locale says what the runs are
(`DateScan.readDate`).
-/

namespace FormValidation
namespace DateScan

/-! ## Runs of digits -/

/-- The longest run of at most so many digits, if it has at least so many, and the text behind it. -/
def run? (least : Nat) (most : Option Nat) (cs : List Char) : Option (List Char × List Char) :=
  let digits :=
    match most with
    | none => cs.takeWhile Char.isDigit
    | some m => (cs.takeWhile Char.isDigit).take m
  if least ≤ digits.length then some (digits, cs.drop digits.length) else none

/-- All the digits that come next, if there are so many of them and the sign is behind them, and the text
behind the sign. -/
def field? (least most : Nat) (sign : Char) (cs : List Char) : Option (List Char × List Char) :=
  let digits := cs.takeWhile Char.isDigit
  match cs.dropWhile Char.isDigit with
  | [] => none
  | c :: rest =>
      if c = sign ∧ least ≤ digits.length ∧ digits.length ≤ most then some (digits, rest) else none

/-! ## Times of day -/

/-- A time of day, in digits. -/
structure Clock where
  hour : List Char
  minute : List Char
  second : Option (List Char)
  deriving Repr, DecidableEq

/-- One or two digits behind a colon. -/
def second? : List Char → Option (List Char)
  | [] => none
  | c :: cs => if c = ':' then (run? 1 (some 2) cs).map Prod.fst else none

/-- The time of day behind characters of a gap, of which there must be one. -/
def clock? (gap : Char → Bool) (cs : List Char) : Option Clock :=
  if cs.takeWhile gap = [] then none
  else do
    let (hour, cs) ← field? 1 2 ':' (cs.dropWhile gap)
    let (minute, cs) ← run? 1 (some 2) cs
    return ⟨hour, minute, second? cs⟩

/-! ## Dates -/

/-- A date as it is written, in digits. -/
structure Fields where
  first : List Char
  second : List Char
  third : List Char
  clock : Option Clock
  deriving Repr, DecidableEq

/-- A way of writing dates.  Neither the sign nor what stands before a time of day is a digit. -/
structure Layout where
  /-- How many digits the first run has. -/
  least : Nat
  most : Nat
  least_le : least ≤ most := by decide
  sign : Char
  sign_not_digit : sign.isDigit = false := by decide
  /-- How many digits of the third run are read. -/
  leastThird : Nat
  mostThird : Option Nat
  third_pos : 0 < leastThird := by decide
  third_le : ∀ m ∈ mostThird, leastThird ≤ m := by simp
  /-- What stands before a time of day. -/
  gap : Char → Bool
  gap_not_digit : ∀ c, gap c = true → c.isDigit = false

/-- The date that a text begins with. -/
def fields? (l : Layout) (cs : List Char) : Option Fields := do
  let (first, cs) ← field? l.least l.most l.sign cs
  let (second, cs) ← field? 1 2 l.sign cs
  let (third, cs) ← run? l.leastThird l.mostThird cs
  return ⟨first, second, third, clock? l.gap cs⟩

/-- Whether a character is white space. -/
def isBlank (c : Char) : Bool :=
  Unicode.whiteSpace.contains c.toNat

theorem isDigit_iff (c : Char) : c.isDigit = true ↔ 0x30 ≤ c.toNat ∧ c.toNat ≤ 0x39 := by
  simp only [Char.isDigit, Bool.and_eq_true, decide_eq_true_eq, ge_iff_le, UInt32.le_iff_toNat_le]
  rfl

theorem not_digit_of_isBlank (c : Char) (h : isBlank c = true) : c.isDigit = false := by
  rw [Bool.eq_false_iff, Ne, isDigit_iff]
  intro hdigit
  -- None of the ranges of white space meets that of the digits.
  simp only [isBlank, Unicode.whiteSpace, Unicode.Ranges.contains, List.any_cons, List.any_nil,
    Bool.or_eq_true, Bool.and_eq_true, decide_eq_true_eq, Bool.or_false] at h
  omega

/-- Four digits, one or two, and one or two, with hyphens between them. -/
def international : Layout where
  least := 4
  most := 4
  sign := '-'
  leastThird := 1
  mostThird := some 2
  gap := fun c => isBlank c || c == 'T'
  gap_not_digit := by
    intro c h
    rcases Bool.or_eq_true _ _ ▸ h with hblank | hletter
    · exact not_digit_of_isBlank c hblank
    · rw [beq_iff_eq.1 hletter]
      decide

/-- One or two digits, one or two, and four or more, with slashes between them. -/
def slashed : Layout where
  least := 1
  most := 2
  sign := '/'
  leastThird := 4
  mostThird := none
  gap := isBlank
  gap_not_digit := not_digit_of_isBlank

/-! ## Numbers -/

/-- The number that digits spell, if it fits into 64 bits. -/
def number (digits : List Char) : Except DateError Int :=
  match Text.signed64? digits with
  | none => .error .invalidNumber
  | some n => .ok n

/-- The components of a date, of which each is spelled by digits. -/
def parts (year month day : List Char) (clock : Option Clock) : Except DateError DateParts := do
  let year ← number year
  let month ← number month
  let day ← number day
  match clock with
  | none => return { year, month, day }
  | some t =>
      let hour ← number t.hour
      let minute ← number t.minute
      match t.second with
      | none => return { year, month, day, hour, minute }
      | some second => return { year, month, day, hour, minute, second := ← number second }

/-- Which of day and month a locale writes first. -/
inductive Order where
  | monthFirst
  | dayFirst
  deriving Repr, DecidableEq

/-- The components of a date that is written with slashes: two numbers, and the year. -/
def Order.parts : Order → Fields → Except DateError DateParts
  | .monthFirst, f => DateScan.parts f.third f.first f.second f.clock
  | .dayFirst, f => DateScan.parts f.third f.second f.first f.clock

/-- The components of a date that is written in the international way, or else with slashes. -/
def parts? (order : Order) (cs : List Char) : Option (Except DateError DateParts) :=
  match fields? international cs with
  | some f => some (parts f.first f.second f.third f.clock)
  | none => (fields? slashed cs).map order.parts

/-- The instant that a text names. -/
def readDate (order : Order) (text : String) : Except DateError Instant :=
  match parts? order text.toList with
  | none => .error .noMatch
  | some p => do (← p).instant

/-! ## What is scanned -/

/-- How many digits of a text a run takes. -/
def reach (most : Option Nat) (cs : List Char) : Nat :=
  match most with
  | none => (cs.takeWhile Char.isDigit).length
  | some m => min m (cs.takeWhile Char.isDigit).length

theorem take_length_takeWhile {α : Type} (p : α → Bool) (l : List α) :
    l.take (l.takeWhile p).length = l.takeWhile p :=
  (List.prefix_iff_eq_take.1 (List.takeWhile_prefix p)).symm

theorem drop_length_takeWhile {α : Type} (p : α → Bool) (l : List α) :
    l.drop (l.takeWhile p).length = l.dropWhile p := by
  have hsplit : l.takeWhile p ++ l.dropWhile p = l := List.takeWhile_append_dropWhile
  have hdrop := congrArg (List.drop (l.takeWhile p).length) hsplit
  rw [List.drop_left] at hdrop
  exact hdrop.symm

theorem reach_le_length (most : Option Nat) (cs : List Char) : reach most cs ≤ cs.length := by
  have hlength := (List.takeWhile_prefix Char.isDigit (l := cs)).length_le
  cases most with
  | none => exact hlength
  | some m => exact Nat.le_trans (Nat.min_le_right _ _) hlength

theorem run?_eq (least : Nat) (most : Option Nat) (cs : List Char) :
    run? least most cs =
      if least ≤ reach most cs then some (cs.take (reach most cs), cs.drop (reach most cs))
      else none := by
  cases most with
  | none => simp [run?, reach, take_length_takeWhile]
  | some m =>
      have htake : (cs.takeWhile Char.isDigit).take m = cs.take (reach (some m) cs) := by
        rw [reach, ← take_length_takeWhile Char.isDigit cs, List.take_take, take_length_takeWhile]
      have hlength : (cs.take (reach (some m) cs)).length = reach (some m) cs :=
        List.length_take_of_le (reach_le_length _ cs)
      simp only [run?, htake, hlength]

theorem field?_eq (least most : Nat) (sign : Char) (cs : List Char) :
    let n := (cs.takeWhile Char.isDigit).length
    field? least most sign cs =
      if (cs.drop n).head? = some sign ∧ least ≤ n ∧ n ≤ most then some (cs.take n, cs.drop (n + 1))
      else none := by
  intro n
  have hdrop : cs.drop n = cs.dropWhile Char.isDigit := drop_length_takeWhile _ cs
  rw [field?, ← List.drop_drop, hdrop, take_length_takeWhile]
  cases cs.dropWhile Char.isDigit with
  | nil => simp
  | cons c rest => simp [n]

/-- Within a run of digits the next character is a digit. -/
theorem exists_head?_drop {p : Char → Bool} {cs : List Char} {i : Nat}
    (h : i < (cs.takeWhile p).length) : ∃ c, (cs.drop i).head? = some c ∧ p c = true := by
  have hprefix := List.takeWhile_prefix p (l := cs)
  refine ⟨(cs.takeWhile p)[i], ?_, List.all_eq_true.1 List.all_takeWhile _ (List.getElem_mem h)⟩
  rw [List.head?_drop, hprefix.getElem h]
  exact List.getElem?_eq_getElem _

/-- What is read comes first in the text, and the rest is what stands behind it. -/
theorem eq_of_run? {least : Nat} {most : Option Nat} {cs digits rest : List Char}
    (h : run? least most cs = some (digits, rest)) :
    digits.length ≤ cs.length ∧ cs.take digits.length = digits ∧
      cs.drop digits.length = rest := by
  have hlength := reach_le_length most cs
  rw [run?_eq] at h
  split at h
  · obtain ⟨rfl, rfl⟩ : _ = digits ∧ _ = rest := by simpa using h
    simp [List.length_take_of_le hlength, hlength]
  · simp at h

theorem eq_of_field? {least most : Nat} {sign : Char} {cs digits rest : List Char}
    (h : field? least most sign cs = some (digits, rest)) :
    digits.length ≤ cs.length ∧ cs.take digits.length = digits ∧
      cs.drop (digits.length + 1) = rest := by
  have hlength := (List.takeWhile_prefix Char.isDigit (l := cs)).length_le
  rw [field?_eq] at h
  split at h
  · obtain ⟨rfl, rfl⟩ : _ = digits ∧ _ = rest := by simpa using h
    simp [List.length_take_of_le hlength, hlength]
  · simp at h

/-! ## Signs behind a text -/

/-- What stands behind the digits that a text begins with, if the text ends before a character that is no
digit. -/
theorem dropWhile_append_cons {c : Char} (hc : c.isDigit = false) (a cs : List Char) :
    (a.all Char.isDigit = true ∧ (a ++ c :: cs).takeWhile Char.isDigit = a ∧
        (a ++ c :: cs).dropWhile Char.isDigit = c :: cs) ∨
      (a.all Char.isDigit = false ∧ ∃ d ds, d ∈ a ∧
        (a ++ c :: cs).dropWhile Char.isDigit = d :: ds) := by
  -- The first character that is no digit is in the text, or it is the one behind it.
  induction a with
  | nil => simp [hc]
  | cons d a ih =>
      by_cases hd : d.isDigit = true
      · rcases ih with ⟨hall, htake, hdrop⟩ | ⟨hall, d', ds, hmem, hdrop⟩
        · exact .inl ⟨by simp [hd, hall], by simp [hd, htake], by simp [hd, hdrop]⟩
        · exact .inr ⟨by simp [hd, hall], d', ds, List.mem_cons_of_mem _ hmem, by simp [hd, hdrop]⟩
      · exact .inr ⟨by simp [hd], d, a ++ c :: cs, List.mem_cons_self, by simp [hd]⟩

theorem field?_append_cons {least most : Nat} {sign : Char} (hsign : sign.isDigit = false)
    {a : List Char} (ha : sign ∉ a) (cs : List Char) :
    field? least most sign (a ++ sign :: cs) =
      if a.all Char.isDigit ∧ least ≤ a.length ∧ a.length ≤ most then some (a, cs) else none := by
  rcases dropWhile_append_cons hsign a cs with ⟨hall, htake, hdrop⟩ | ⟨hall, d, ds, hmem, hdrop⟩
  · simp [field?, htake, hdrop, hall]
  · have hne : d ≠ sign := fun h => ha (h ▸ hmem)
    simp [field?, hdrop, hne, hall]

theorem field?_append_cons_of_ne {least most : Nat} {sign c : Char} (hc : c.isDigit = false)
    (hne : c ≠ sign) {a : List Char} (ha : sign ∉ a) (cs : List Char) :
    field? least most sign (a ++ c :: cs) = none := by
  rcases dropWhile_append_cons hc a cs with ⟨-, -, hdrop⟩ | ⟨-, d, ds, hmem, hdrop⟩
  · simp [field?, hdrop, hne]
  · have hne' : d ≠ sign := fun h => ha (h ▸ hmem)
    simp [field?, hdrop, hne']

/-- A text without a hyphen before a slash is not written in the international way. -/
theorem fields?_international_slash {a : List Char} (ha : '-' ∉ a) (cs : List Char) :
    fields? international (a ++ '/' :: cs) = none := by
  rw [fields?, international, field?_append_cons_of_ne (by decide) (by decide) ha]
  rfl

/-- Two runs before slashes change places. -/
theorem fields?_slashed_swap {a b : List Char} (ha : '/' ∉ a) (hb : '/' ∉ b) (cs : List Char) :
    fields? slashed (a ++ '/' :: (b ++ '/' :: cs)) =
      (fields? slashed (b ++ '/' :: (a ++ '/' :: cs))).map fun f =>
        { f with first := f.second, second := f.first } := by
  -- Whether a run is accepted does not depend on what stands behind its slash.
  have hfield : ∀ {a : List Char} (_ : '/' ∉ a) (cs : List Char), field? 1 2 '/' (a ++ '/' :: cs) =
      if a.all Char.isDigit ∧ 1 ≤ a.length ∧ a.length ≤ 2 then some (a, cs) else none :=
    fun ha cs => field?_append_cons (by decide) ha cs
  by_cases hafield : a.all Char.isDigit ∧ 1 ≤ a.length ∧ a.length ≤ 2 <;>
    by_cases hbfield : b.all Char.isDigit ∧ 1 ≤ b.length ∧ b.length ≤ 2 <;>
      simp only [fields?, slashed, hfield ha, hfield hb, hafield, hbfield, and_self, if_true, if_false,
        Option.bind_eq_bind, Option.bind_some, Option.bind_none, Option.map_none]
  cases run? 4 none cs <;> rfl

end DateScan
end FormValidation
