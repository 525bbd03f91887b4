import FormValidation.Locale.Table
import FormValidation.Text.Blank
import FormValidation.Text.Letter
import FormValidation.Text.Numeral

/-!
# Settings

Settings say which locales there are besides the built-in ones, which one is active, and how long an
asynchronous validator may take.  Variables of the environment go before what a document says
(`Settings.override`).
-/

namespace FormValidation

/-! ## Settings -/

/-- A locale as it is defined in settings. -/
structure LocaleDefinition where
  /-- The pattern for dates. -/
  dateFormat : String := DateFormat.slashedSource
  groups : DateGroups := .monthFirst
  decimalSeparator : Char := '.'
  deriving Repr, DecidableEq

/-- The locale that a definition stands for under a name. -/
def LocaleDefinition.locale (d : LocaleDefinition) (name : String) : Except Error Locale :=
  Locale.create name d.dateFormat d.groups d.decimalSeparator

/-- The settings of an engine and of its program. -/
structure Settings where
  debug : Bool := true
  logLevel : String := "info"
  /-- The name of the active locale. -/
  locale : String := Locale.defaultName
  /-- How many milliseconds an asynchronous validator may take. -/
  asyncTimeout : Option Nat := none
  locales : NameMap LocaleDefinition := .empty

namespace Settings

/-- How many milliseconds an asynchronous validator may take; zero stands for no limit. -/
def timeLimit? (s : Settings) : Option Nat :=
  s.asyncTimeout.filter fun n => 0 < n

/-! ## Environment -/

/-- Variables by name. -/
abbrev Environment := String → Option String

/-- The texts that switch debugging on, in lower case; any other switches it off. -/
def debugWords : List String :=
  ["true", "1", "yes"]

/-- The texts that clear the time limit, trimmed and in lower case. -/
def clearingWords : List String :=
  ["", "0", "none"]

/-- The time limit that a text asks for instead of `old`.  A text that is no number changes nothing. -/
def timeoutOf (old : Option Nat) (text : String) : Option Nat :=
  let word := Text.lower (Text.trim text)
  if clearingWords.contains word then none
  else (Text.unsigned64? word.toList).orElse fun _ => old

/-- The settings with the variables of the environment put in. -/
def override (s : Settings) (env : Environment) : Settings :=
  { s with
    debug := ((env "VALIDATORS_DEBUG").map fun text =>
      debugWords.contains (Text.lower text)).getD s.debug
    logLevel := (env "VALIDATORS_LOG_LEVEL").getD s.logLevel
    locale := (env "VALIDATORS_LOCALE").getD s.locale
    asyncTimeout :=
      match env "VALIDATORS_ASYNC_TIMEOUT_MS" with
      | some text => timeoutOf s.asyncTimeout text
      | none => s.asyncTimeout }

end Settings
end FormValidation
