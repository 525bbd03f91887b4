import FormValidation.Locale.Basic
import FormValidation.NameMap

/-!
# Tables of locales

A table holds locales by name, one of which may be active.
-/

namespace FormValidation

/-- Locales by name, and the name of the active one. -/
structure LocaleTable where
  locales : NameMap Locale
  active : Option String

namespace LocaleTable

def empty : LocaleTable where
  locales := .empty
  active := none

/-- Stores a locale under a name, which becomes its own. -/
def register (t : LocaleTable) (name : String) (l : Locale) : LocaleTable :=
  { t with locales := t.locales.insert name { l with name } }

/-- The table of the built-in locales, with American English active. -/
def initial : LocaleTable :=
  { Locale.builtIn.foldl (fun t l => t.register l.name l) empty with
    active := some Locale.defaultName }

def get? (t : LocaleTable) (name : String) : Option Locale :=
  t.locales.get? name

def contains (t : LocaleTable) (name : String) : Bool :=
  t.locales.contains name

def names (t : LocaleTable) : List String :=
  t.locales.names

/-- Makes a locale the active one; the table must have it. -/
def activate (t : LocaleTable) (name : String) : Except Error LocaleTable :=
  if t.contains name then .ok { t with active := some name } else .error (.localeNotFound name)

def current (t : LocaleTable) : Except Error Locale :=
  match t.active with
  | none => .error .noActiveLocale
  | some name =>
      match t.get? name with
      | none => .error (.localeNotFound name)
      | some l => .ok l

end LocaleTable
end FormValidation
