import FormValidation.Error

/-!
# Locales

A locale says how dates are written, besides the international spelling, and which character separates
the decimals of a number.
-/

namespace FormValidation

/-- How dates and decimals are written in some place. -/
structure Locale where
  name : String
  dateFormat : DateFormat
  decimalSeparator : Char

namespace Locale

/-- The locale with a pattern for dates and the groups of it. -/
def ofPattern (name : String) (pattern : Pattern) (groups : DateGroups) (decimalSeparator : Char) :
    Except Error Locale :=
  match DateFormat.ofPattern pattern groups with
  | .error refusal => .error (.invalidLocale name refusal)
  | .ok dateFormat => .ok { name, dateFormat, decimalSeparator }

/-- As `ofPattern`, with the text of a pattern. -/
def create (name source : String) (groups : DateGroups) (decimalSeparator : Char) :
    Except Error Locale :=
  match Pattern.read? source with
  | none => .error (.invalidLocale name .notAPattern)
  | some pattern => ofPattern name pattern groups decimalSeparator

/-! ## The locales at hand -/

/-- American English: the month first, a point before decimals. -/
def enUS : Locale where
  name := "en-US"
  dateFormat := .slashedMonthFirst
  decimalSeparator := '.'

def en : Locale where
  name := "en"
  dateFormat := .slashedMonthFirst
  decimalSeparator := '.'

/-- French: the day first, a comma before decimals. -/
def fr : Locale where
  name := "fr"
  dateFormat := .slashedDayFirst
  decimalSeparator := ','

def builtIn : List Locale :=
  [enUS, en, fr]

def defaultName : String := "en-US"

end Locale
end FormValidation
