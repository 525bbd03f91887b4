import FormValidation.Settings.Basic

/-!
# Which locales can be set up

A locale is set up if its pattern can be read and has the group of every component of a date.  Whatever way it
is set up, its groups are then those of its pattern (`Locale.groups_within`), and it is what was asked for
(`Locale.ofPattern_eq_ok_iff`, `Locale.create_eq_ok_iff`).
-/

namespace FormValidation

namespace DateGroups

/-- The groups of all components are among the groups of a pattern with so many of them. -/
structure Within (g : DateGroups) (count : Nat) : Prop where
  day : 1 ≤ g.day ∧ g.day ≤ count
  month : 1 ≤ g.month ∧ g.month ≤ count
  year : 1 ≤ g.year ∧ g.year ≤ count
  hour : ∀ n, g.hour = some n → 1 ≤ n ∧ n ≤ count
  minute : ∀ n, g.minute = some n → 1 ≤ n ∧ n ≤ count
  second : ∀ n, g.second = some n → 1 ≤ n ∧ n ≤ count

/-- What holds of all components with a group holds of the first three, and of those of a time if they have
one. -/
theorem forall_mem_named_iff (g : DateGroups) (p : Nat → Prop) :
    (∀ e ∈ g.named, p e.2) ↔
      p g.day ∧ p g.month ∧ p g.year ∧ (∀ n, g.hour = some n → p n) ∧
        (∀ n, g.minute = some n → p n) ∧ ∀ n, g.second = some n → p n := by
  obtain ⟨day, month, year, hour, minute, second⟩ := g
  cases hour <;> cases minute <;> cases second <;> simp [named]

theorem missing?_eq_none_iff (g : DateGroups) (count : Nat) : g.missing? count = none ↔ g.Within count := by
  have hrange : ∀ n : Nat, ¬(n == 0 || decide (count < n)) = true ↔ 1 ≤ n ∧ n ≤ count := by
    intro n
    simp
    omega
  have hnamed : g.missing? count = none ↔ ∀ e ∈ g.named, 1 ≤ e.2 ∧ e.2 ≤ count := by
    rw [missing?, List.find?_eq_none]
    exact forall_congr' fun e => imp_congr_right fun _ => hrange e.2
  rw [hnamed, forall_mem_named_iff g fun n => 1 ≤ n ∧ n ≤ count]
  constructor
  · rintro ⟨day, month, year, hour, minute, second⟩
    exact ⟨day, month, year, hour, minute, second⟩
  · rintro ⟨day, month, year, hour, minute, second⟩
    exact ⟨day, month, year, hour, minute, second⟩

end DateGroups

namespace DateFormat

theorem ofPattern_eq_ok_iff (pattern : Pattern) (groups : DateGroups) (f : DateFormat) :
    ofPattern pattern groups = .ok f ↔ f.pattern = pattern ∧ f.groups = groups := by
  unfold ofPattern
  constructor
  · intro h
    split at h
    · cases h
    · cases h
      exact ⟨rfl, rfl⟩
  · rintro ⟨rfl, rfl⟩
    split
    · rename_i hmissing
      rw [f.present] at hmissing
      cases hmissing
    · rfl

end DateFormat

namespace Locale

/-- The groups of a locale are groups of its pattern. -/
theorem groups_within (l : Locale) : l.dateFormat.groups.Within l.dateFormat.pattern.groupCount :=
  (DateGroups.missing?_eq_none_iff _ _).1 l.dateFormat.present

theorem ofPattern_eq_ok_iff (name : String) (pattern : Pattern) (groups : DateGroups) (separator : Char)
    (l : Locale) :
    ofPattern name pattern groups separator = .ok l ↔
      l.name = name ∧ l.dateFormat.pattern = pattern ∧ l.dateFormat.groups = groups ∧
        l.decimalSeparator = separator := by
  obtain ⟨name', f, separator'⟩ := l
  rw [← and_assoc, ← and_assoc, and_assoc (a := name' = name), ← DateFormat.ofPattern_eq_ok_iff]
  unfold ofPattern
  cases DateFormat.ofPattern pattern groups with
  | error refusal => simp
  | ok f' => simp [eq_comm, and_assoc]

theorem create_eq_ok_iff (name source : String) (groups : DateGroups) (separator : Char) (l : Locale) :
    create name source groups separator = .ok l ↔
      ∃ pattern, Pattern.read? source = some pattern ∧
        ofPattern name pattern groups separator = .ok l := by
  unfold create
  cases Pattern.read? source with
  | none => simp
  | some pattern => simp

/-- A locale can be set up exactly if the pattern has the group of every component. -/
theorem exists_ofPattern_eq_ok_iff (name : String) (pattern : Pattern) (groups : DateGroups)
    (separator : Char) :
    (∃ l, ofPattern name pattern groups separator = .ok l) ↔ groups.Within pattern.groupCount := by
  constructor
  · rintro ⟨l, h⟩
    rcases (ofPattern_eq_ok_iff _ _ _ _ _).1 h with ⟨-, rfl, rfl, -⟩
    exact l.groups_within
  · intro h
    have hpresent := (DateGroups.missing?_eq_none_iff groups pattern.groupCount).2 h
    refine ⟨⟨name, ⟨pattern, groups, hpresent⟩, separator⟩, ?_⟩
    rw [ofPattern_eq_ok_iff]
    exact ⟨rfl, rfl, rfl, rfl⟩

end Locale
end FormValidation
