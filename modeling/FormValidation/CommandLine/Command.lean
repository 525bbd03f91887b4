import FormValidation.Calendar.Text
import FormValidation.CommandLine.Arguments
import FormValidation.Engine.Run
import FormValidation.Form.Document
import FormValidation.Json.Printer
import FormValidation.Settings.Document

/-!
# Subcommands

The program has two subcommands: `check` validates the form that a file describes, and `parse-date` reads
a date.  A subcommand that runs writes a report; its exit code is 0 if its subject is fine and 1 if not.

* `Settings.checkForm`, `Settings.readDate` — what the subcommands find out;
* `RunOutcome.text`, `RunOutcome.json` — how `check` reports an outcome.
-/

namespace FormValidation

/-! ## Validating a file -/

namespace Settings

/-- The engine of settings, under another locale if one is given. -/
def engine (s : Settings) (locale : Option String) : Except Error Engine := do
  let e ← Engine.ofSettings s
  match locale with
  | none => return e
  | some name => e.setLocale name

def formOf (files : Files) (path : String) : Except Error Form :=
  match files path with
  | none => .error .unreadableFile
  | some text => Form.ofText text

def checkForm (s : Settings) (files : Files) (path : String) (group locale : Option String) :
    Except Error RunOutcome := do
  let form ← formOf files path
  let e ← s.engine locale
  (e.validate form group).2

/-- Reads a date; `none` if the text is none. -/
def readDate (s : Settings) (text : String) (locale : Option String) :
    Except Error (Option Instant) := do
  return (← s.engine locale).date? text

end Settings

/-! ## Reports -/

namespace RunOutcome

def text (o : RunOutcome) : String :=
  if o.status then "Form is valid"
  else
    "Form is invalid (" ++ toString o.messages.length ++ " message(s))" ++
      String.join (o.messages.map fun message => "\n  - " ++ message)

def toJson (o : RunOutcome) : Json :=
  .obj [("status", .bool o.status), ("messages", .arr (o.messages.map .str))]

def json (o : RunOutcome) : String :=
  o.toJson.pretty

def render (o : RunOutcome) (asJson : Bool) : String :=
  if asJson then o.json else o.text

end RunOutcome

/-- What a program that ran leaves behind.  Lines that are logged on the way are no part of it: they go to the
standard output as well, if the settings let them, and before what is printed there. -/
structure Report where
  exitCode : Nat
  /-- What the program prints on the standard output. -/
  printed : String := ""
  /-- What it prints on the standard error. -/
  errors : String := ""
  deriving Repr, DecidableEq

/-! ## Commands -/

inductive Command where
  | check
  | parseDate
  deriving Repr, DecidableEq

namespace Command

def name : Command → String
  | .check => "check"
  | .parseDate => "parse-date"

def help : Command → String
  | .check => "Validate a JSON form definition"
  | .parseDate => "Parse a date in the international or a locale format"

def all : List Command :=
  [.check, .parseDate]

def helpOption : OptionSpec :=
  ⟨"help", some 'h', .help⟩

/-- The option that names the settings file; it may stand before and behind the subcommand. -/
def settingsOption : OptionSpec :=
  ⟨"settings", some 's', .store⟩

def localeOption : OptionSpec :=
  ⟨"locale", some 'l', .store⟩

def options : Command → List OptionSpec
  | .check => [⟨"group", some 'g', .store⟩, localeOption, ⟨"json", none, .flag⟩]
  | .parseDate => [localeOption]

def level (c : Command) : Level where
  options := c.options ++ [settingsOption, helpOption]
  subcommands := []
  takesArgument := true

/-- Runs a subcommand with the arguments that were read. -/
def run (c : Command) (files : Settings.Files) (s : Settings) (m : Matches) :
    Except Error Report := do
  let argument := m.argument.getD ""
  match c with
  | .check =>
      let o ← s.checkForm files argument (m.option? "group") (m.option? "locale")
      return ⟨if o.status then 0 else 1, o.render (m.flag "json") ++ "\n", ""⟩
  | .parseDate =>
      match ← s.readDate argument (m.option? "locale") with
      | some i => return ⟨0, i.text ++ "\n", ""⟩
      | none => return ⟨1, "", "Not a valid date: " ++ argument ++ "\n"⟩

end Command

/-! ## Tables of commands -/

abbrev CommandTable := NameMap Command

namespace CommandTable

def withAll (t : CommandTable) : CommandTable :=
  Command.all.foldl (fun t c => t.insert c.name c) t

def full : CommandTable :=
  withAll .empty

/-- The grammar of the arguments of a program with these subcommands. -/
def grammar (t : CommandTable) : Grammar where
  options := [Command.settingsOption, Command.helpOption, ⟨"version", some 'V', .version⟩]
  commands := t.entries.map fun e => (e.1, e.2.level)

def execute (t : CommandTable) (files : Settings.Files) (s : Settings) (a : Arguments) :
    Except Error Report :=
  match a.command with
  | none => .error (.configuration .noSubcommand)
  | some (name, m) =>
      match t.get? name with
      | none => .error (.configuration (.unknownCommand name))
      | some c => c.run files s m

end CommandTable

/-! ## The program -/

namespace Arguments

/-- The settings file; one that is named behind the subcommand goes before one in front of it. -/
def settingsPath (a : Arguments) : Option String :=
  (a.command.bind fun c => c.2.option? "settings") <|> a.options.option? "settings"

def paths (a : Arguments) : List String :=
  a.settingsPath.toList ++ (a.command.bind fun c => c.2.argument).toList

def run (files : Settings.Files) (env : Settings.Environment) (a : Arguments) :
    Except Error Report := do
  let s ← Settings.load files env a.settingsPath
  CommandTable.full.execute files s a

end Arguments

end FormValidation
