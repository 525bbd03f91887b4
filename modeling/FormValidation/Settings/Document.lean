import FormValidation.Json.Fields
import FormValidation.Json.Merge
import FormValidation.Json.Reader
import FormValidation.Settings.Basic
import FormValidation.Toml.Reader

/-!
# Settings documents

Settings are written as JSON or TOML.  A document is laid over the default settings, so it gives only
what differs from them; members of unknown keys mean nothing.  The settings, the definition of a locale
and the groups of a date format may also be written as arrays of their fields.

The name of a file tells its format: a name that ends in `.toml` and does not consist of that alone is
one of a TOML document, any other one of a JSON document.
-/

namespace FormValidation

/-! ## Writing -/

def Json.ofOption (n : Option Nat) : Json :=
  match n with
  | some n => .num (.natural n)
  | none => .null

namespace DateGroups

def toJson (g : DateGroups) : Json :=
  .obj [("day", .num (.natural g.day)), ("month", .num (.natural g.month)),
    ("year", .num (.natural g.year)), ("hour", .ofOption g.hour), ("minute", .ofOption g.minute),
    ("second", .ofOption g.second)]

end DateGroups

namespace LocaleDefinition

def toJson (d : LocaleDefinition) : Json :=
  .obj [("date_format", .str d.dateFormat), ("date_format_groups", d.groups.toJson),
    ("decimal_separator", .str (String.ofList [d.decimalSeparator]))]

end LocaleDefinition

namespace Settings

def toJson (s : Settings) : Json :=
  .obj [("debug", .bool s.debug), ("log_level", .str s.logLevel), ("locale", .str s.locale),
    ("async_timeout_ms", .ofOption s.asyncTimeout),
    ("locales", .obj (s.locales.entries.map fun e => (e.1, e.2.toJson)))]

end Settings

/-! ## Reading -/

namespace DateGroups

/-- The groups of an array, of which the last three may be left out. -/
def ofItems? : List Json → Option DateGroups
  | day :: month :: year :: times =>
      if 3 < times.length then none
      else do
        let time (i : Nat) : Option (Option Nat) := ((times[i]?).getD .null).asOption Json.asNatural
        return {
          day := ← day.asNatural, month := ← month.asNatural, year := ← year.asNatural,
          hour := ← time 0, minute := ← time 1, second := ← time 2 }
  | _ => none

def ofJson? : Json → Option DateGroups
  | .obj members => do
      let time (key : String) : Option (Option Nat) :=
        Json.defaulted key none (Json.asOption Json.asNatural) members
      return {
        day := ← Json.required "day" Json.asNatural members
        month := ← Json.required "month" Json.asNatural members
        year := ← Json.required "year" Json.asNatural members
        hour := ← time "hour", minute := ← time "minute", second := ← time "second" }
  | .arr items => ofItems? items
  | _ => none

end DateGroups

namespace LocaleDefinition

/-- The character that a value stands for. -/
def separatorOf (j : Json) : Option Char := do
  match (← j.asText).toList with
  | [c] => some c
  | _ => none

/-- The definition of an array, of which any number of fields may be left out at the end. -/
def ofItems? (items : List Json) : Option LocaleDefinition :=
  let base : LocaleDefinition := {}
  if 3 < items.length then none
  else do
    return {
      dateFormat := ← (items[0]?).elim (some base.dateFormat) Json.asText
      groups := ← (items[1]?).elim (some base.groups) DateGroups.ofJson?
      decimalSeparator := ← (items[2]?).elim (some base.decimalSeparator) separatorOf }

def ofJson? : Json → Option LocaleDefinition
  | .obj members =>
      let base : LocaleDefinition := {}
      do
        return {
          dateFormat := ← Json.defaulted "date_format" base.dateFormat Json.asText members
          groups := ← Json.defaulted "date_format_groups" base.groups DateGroups.ofJson? members
          decimalSeparator :=
            ← Json.defaulted "decimal_separator" base.decimalSeparator separatorOf members }
  | .arr items => ofItems? items
  | _ => none

end LocaleDefinition

namespace Settings

/-- The definitions of locales that a value stands for. -/
def localesOf : Json → Option (NameMap LocaleDefinition)
  | .obj members => do
      let definitions ← members.mapM fun m => (LocaleDefinition.ofJson? m.2).map (m.1, ·)
      return .ofList definitions
  | _ => none

def ofJson? : Json → Option Settings
  | .obj members => do
      return {
        debug := ← Json.required "debug" Json.asBool members
        logLevel := ← Json.required "log_level" Json.asText members
        locale := ← Json.required "locale" Json.asText members
        asyncTimeout :=
          ← Json.defaulted "async_timeout_ms" none (Json.asOption Json.asNatural) members
        locales := ← Json.required "locales" localesOf members }
  | .arr [debug, logLevel, locale, asyncTimeout, locales] => do
      return {
        debug := ← debug.asBool
        logLevel := ← logLevel.asText
        locale := ← locale.asText
        asyncTimeout := ← asyncTimeout.asOption Json.asNatural
        locales := ← localesOf locales }
  | _ => none

/-- The settings that a document stands for: its value laid over the default settings. -/
def ofDocument? (document : Json) : Option Settings :=
  ofJson? (({} : Settings).toJson.merge document)

/-- The value that a text describes.  Of members of one key the last one counts. -/
def documentOf (format : DocumentFormat) (text : String) : Option Json :=
  let value :=
    match format with
    | .json => Json.read? text
    | .toml => (Toml.read? text).map Toml.Value.toJson
  value.map Json.settled

/-- The settings that a text describes. -/
def ofText (format : DocumentFormat) (text : String) : Except Error Settings :=
  match documentOf format text with
  | none => .error (.configuration (.unparsable format))
  | some document =>
      match ofDocument? document with
      | none => .error (.configuration (.unfitSettings format))
      | some s => .ok s

/-! ## Files -/

/-- The texts of files by path. -/
abbrev Files := String → Option String

/-- The last component of a path. -/
def fileName (path : String) : List Char :=
  (((Text.splitChars '/' path.toList).filter fun part => part != [] && part != ['.']).getLast?).getD []

/-- Whether a file has the extension `toml`: some text, a point, and `toml`. -/
def isToml (path : String) : Bool :=
  let name := fileName path
  -- A name that is nothing but the extension has none.
  ".toml".toList.isSuffixOf name && name.length != 5

def formatOf (path : String) : DocumentFormat :=
  if isToml path then .toml else .json

/-- The settings that a file of a format describes. -/
def ofFileAs (format : DocumentFormat) (files : Files) (path : String) : Except Error Settings :=
  match files path with
  | none => .error (.configuration (.unreadable format path))
  | some text => ofText format text

def ofFile (files : Files) (path : String) : Except Error Settings :=
  ofFileAs (formatOf path) files path

/-- The settings of a program: those of a file, or the default ones, with the environment put in. -/
def load (files : Files) (env : Environment) (path : Option String) : Except Error Settings :=
  match path with
  | none => .ok (({} : Settings).override env)
  | some path => do return (← ofFile files path).override env

end Settings
end FormValidation
