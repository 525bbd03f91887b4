import FormValidation.Pattern.Basic

/-!
# Date formats

A date format is a pattern together with the numbers of the groups that hold the components of a date.
Every number that it names is one of a group of the pattern; the type carries the proof.

* `DateFormat.international` — `2024-01-10`, optionally with a time after white space or a `T`;
* `DateFormat.slashedMonthFirst` and `DateFormat.slashedDayFirst` — two short numbers and a year with
  slashes between them, optionally with a time after white space.
-/

namespace FormValidation

/-! ## Groups -/

/-- The groups that hold the components of a date.  A format may do without a time. -/
structure DateGroups where
  day : Nat
  month : Nat
  year : Nat
  hour : Option Nat := none
  minute : Option Nat := none
  second : Option Nat := none
  deriving Repr, DecidableEq

namespace DateGroups

/-- The components with a group, by name, in the order in which they are checked. -/
def named (g : DateGroups) : List (String × Nat) :=
  [("day", g.day), ("month", g.month), ("year", g.year)] ++
    [("hour", g.hour), ("minute", g.minute), ("second", g.second)].filterMap fun (name, group) =>
      group.map fun n => (name, n)

/-- The first component whose group a pattern with `count` groups does not have. -/
def missing? (g : DateGroups) (count : Nat) : Option (String × Nat) :=
  g.named.find? fun (_, n) => n == 0 || count < n

def dayFirst : DateGroups where
  day := 1
  month := 2
  year := 3
  hour := some 5
  minute := some 6
  second := some 8

def monthFirst : DateGroups where
  day := 2
  month := 1
  year := 3
  hour := some 5
  minute := some 6
  second := some 8

def yearFirst : DateGroups where
  day := 3
  month := 2
  year := 1
  hour := some 5
  minute := some 6
  second := some 8

end DateGroups

/-! ## Formats -/

/-- A pattern and the groups of it that hold the components of a date. -/
structure DateFormat where
  pattern : Pattern
  groups : DateGroups
  present : groups.missing? pattern.groupCount = none := by decide

namespace DateFormat

/-- Why a pattern and its groups are no date format. -/
inductive Refusal where
  | notAPattern
  | noSuchGroup (component : String) (group count : Nat)
  deriving Repr, DecidableEq

/-- The format of a pattern and its groups. -/
def ofPattern (pattern : Pattern) (groups : DateGroups) : Except Refusal DateFormat :=
  match h : groups.missing? pattern.groupCount with
  | some (component, group) => .error (.noSuchGroup component group pattern.groupCount)
  | none => .ok ⟨pattern, groups, h⟩

end DateFormat

/-! ## The formats at hand -/

namespace Pattern

/-- From `min` to `max` digits. -/
def Regex.digits (min : Nat) (max : Option Nat) : Regex :=
  .rep (.char .digit) min max true

def Regex.sign (c : Char) : Regex :=
  .char (.single c)

/-- A time of day behind characters of a class, in groups 4 to 8. -/
def Regex.timeBehind (gap : CharClass) : Regex :=
  .rep
    (.group 4 (.concat [
      .rep (.char gap) 1 none true,
      .group 5 (.digits 1 (some 2)), .sign ':', .group 6 (.digits 1 (some 2)),
      .rep (.group 7 (.concat [.sign ':', .group 8 (.digits 1 (some 2))])) 0 (some 1) true]))
    0 (some 1) true

/-- The expression of the international date format. -/
def Regex.internationalDate : Regex :=
  .concat [
    .assertion .textStart,
    .group 1 (.digits 4 (some 4)), .sign '-',
    .group 2 (.digits 1 (some 2)), .sign '-',
    .group 3 (.digits 1 (some 2)),
    .timeBehind (.union (.ranges Unicode.whiteSpace) (.single 'T'))]

/-- The expression of the date format with slashes. -/
def Regex.slashedDate : Regex :=
  .concat [
    .assertion .textStart,
    .group 1 (.digits 1 (some 2)), .sign '/',
    .group 2 (.digits 1 (some 2)), .sign '/',
    .group 3 (.digits 4 none),
    .timeBehind (.ranges Unicode.whiteSpace)]

end Pattern

namespace DateFormat

def internationalSource : String :=
  "^([0-9]\x7b4\x7d)-([0-9]\x7b1,2\x7d)-([0-9]\x7b1,2\x7d)" ++
    "([\\sT]+([0-9]\x7b1,2\x7d):([0-9]\x7b1,2\x7d)(:([0-9]\x7b1,2\x7d))?)?"

def slashedSource : String :=
  "^([0-9]\x7b1,2\x7d)/([0-9]\x7b1,2\x7d)/([0-9]\x7b4,\x7d)" ++
    "(\\s+([0-9]\x7b1,2\x7d):([0-9]\x7b1,2\x7d)(:([0-9]\x7b1,2\x7d))?)?"

/-- The international pattern is what its text says. -/
theorem read?_internationalSource :
    Pattern.read? internationalSource = some ⟨internationalSource, .internationalDate⟩ := by
  decide +kernel

/-- The pattern with slashes is what its text says. -/
theorem read?_slashedSource :
    Pattern.read? slashedSource = some ⟨slashedSource, .slashedDate⟩ := by
  decide +kernel

/-- Year, month and day with hyphens between them, and optionally a time. -/
def international : DateFormat where
  pattern := ⟨internationalSource, .internationalDate⟩
  groups := .yearFirst

/-- Numbers with slashes between them, of which the third is the year, and optionally a time. -/
def slashedMonthFirst : DateFormat where
  pattern := ⟨slashedSource, .slashedDate⟩
  groups := .monthFirst

/-- As `slashedMonthFirst`, with the day before the month. -/
def slashedDayFirst : DateFormat where
  pattern := ⟨slashedSource, .slashedDate⟩
  groups := .dayFirst

end DateFormat
end FormValidation
