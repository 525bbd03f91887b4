import FormValidation.CommandLine.Command

/-!
# What the program leaves behind

The arguments, the files and the variables of the environment determine what the program prints and which
exit code it ends with (`Program.report`).  An error ends it with the exit code 2, before anything is printed
but the error.

Two things are left open.  The words in which arguments are refused, or help is given, are those of a library for
arguments, and are a parameter here.  Lines that are logged on the way stand on the standard output before what is
printed, and are no part of a report.
-/

namespace FormValidation

namespace Report

/-- What is left behind when an error ends the program. -/
def ofError (e : Error) : Report :=
  ⟨2, "", "error: " ++ e.message ++ "\n"⟩

def ofResult : Except Error Report → Report
  | .error e => ofError e
  | .ok r => r

end Report

namespace Program

/-! ## Arguments that are not carried out -/

/-- What is left behind when the arguments are not carried out; help that was asked for is no error. -/
def usageReport (wording : Usage → String) (usage : Usage) : Report :=
  if usage.exitCode = 0 then ⟨0, wording usage, ""⟩ else ⟨usage.exitCode, "", wording usage⟩

/-! ## The program -/

/-- The variables that go before the settings of a file. -/
def variableNames : List String :=
  ["VALIDATORS_DEBUG", "VALIDATORS_LOG_LEVEL", "VALIDATORS_LOCALE", "VALIDATORS_ASYNC_TIMEOUT_MS"]

/-- The paths of the files that arguments name. -/
def paths (words : List String) : List String :=
  match CommandTable.full.grammar.read words with
  | .error _ => []
  | .ok arguments => arguments.paths

/-- What the program leaves behind. -/
def report (wording : Usage → String) (files : Settings.Files) (env : Settings.Environment)
    (words : List String) : Report :=
  match CommandTable.full.grammar.read words with
  | .error usage => usageReport wording usage
  | .ok arguments => .ofResult (arguments.run files env)

end Program
end FormValidation
