/-!
# Why arguments are not carried out

Arguments that the grammar of the command line refuses, and requests for help, end the program before it
does anything.
-/

namespace FormValidation

/-- Why arguments are not carried out. -/
inductive Usage where
  | unknownArgument
  | invalidSubcommand
  | missingRequiredArgument
  | missingSubcommand
  /-- An option without the value that it needs. -/
  | invalidValue
  /-- A flag with a value that it does not take. -/
  | tooManyValues
  /-- An option that was given twice. -/
  | argumentConflict
  | displayHelp
  | displayVersion
  /-- Nothing was asked for, so help is shown. -/
  | displayHelpOnMissing
  deriving Repr, DecidableEq

/-- The exit code: only help and version that were asked for are no failure. -/
def Usage.exitCode : Usage → Nat
  | .displayHelp | .displayVersion => 0
  | _ => 2

end FormValidation
