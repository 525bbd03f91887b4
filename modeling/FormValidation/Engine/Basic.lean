import FormValidation.Locale.Date
import FormValidation.Settings.Basic
import FormValidation.Validator.Basic

/-!
# Engines

An engine holds all that a run needs besides the form: the locales, the custom validators, and how long
an asynchronous validator may take.
-/

namespace FormValidation

/-- What runs need besides a form. -/
structure Engine where
  locales : LocaleTable := .initial
  validators : Registry := .empty
  /-- How many milliseconds an asynchronous validator may take. -/
  timeLimit : Option Nat := none

namespace Engine

/-- The table with the locales of settings put in, in increasing order of names.  The first definition
that is refused decides. -/
def withLocales (t : LocaleTable) : List (String × LocaleDefinition) → Except Error LocaleTable
  | [] => .ok t
  | (name, definition) :: rest => do
      let l ← definition.locale name
      withLocales (t.register name l) rest

def setLocale (e : Engine) (name : String) : Except Error Engine := do
  return { e with locales := ← e.locales.activate name }

def registerLocale (e : Engine) (name : String) (l : Locale) : Engine :=
  { e with locales := e.locales.register name l }

def ofSettings (s : Settings) : Except Error Engine := do
  let locales ← withLocales .initial s.locales.entries
  let e ← setLocale { locales } s.locale
  return { e with timeLimit := s.timeLimit? }

def date? (e : Engine) (text : String) : Option Instant :=
  e.locales.current.toOption.bind fun l => l.date? text

end Engine
end FormValidation
