import FormValidation.Locale.DateFormat

/-!
# Errors

Why a run, a form, a locale or settings are refused, each cause as a constructor.  `Error.message` gives
the wording, and `Error.isConfiguration` tells the causes that lie in what was declared or configured
from those that lie in a custom validator or in the environment.
-/

namespace FormValidation

inductive DocumentFormat where
  | toml
  | json
  deriving Repr, DecidableEq

def DocumentFormat.name : DocumentFormat → String
  | .toml => "TOML"
  | .json => "JSON"

/-- What is wrong with a document or with the arguments of the program. -/
inductive ConfigurationProblem where
  | unparsable (format : DocumentFormat)
  | unfitSettings (format : DocumentFormat)
  | unreadable (format : DocumentFormat) (path : String)
  | invalidForm
  | noSubcommand
  | unknownCommand (name : String)
  deriving Repr, DecidableEq

def ConfigurationProblem.message : ConfigurationProblem → String
  | .unparsable format => "Failed to parse " ++ format.name
  | .unfitSettings format => "Failed to deserialize settings from " ++ format.name
  | .unreadable format path => "Failed to read " ++ format.name ++ " file '" ++ path ++ "'"
  | .invalidForm => "Invalid form definition"
  | .noSubcommand => "No subcommand specified"
  | .unknownCommand name => "Unknown command: " ++ name

/-- The wording of the reason why a pattern and its groups are no date format. -/
def DateFormat.Refusal.message : DateFormat.Refusal → String
  | .notAPattern => "date format does not compile"
  | .noSuchGroup component group count =>
      component ++ " group " ++ toString group ++ " does not exist (pattern has " ++
        toString count ++ " groups)"

/-- Why something was refused. -/
inductive Error where
  | missingAttribute (kind name : String)
  | unknownRuleKind (text : String)
  | unknownOperator (text : String)
  | conflictingOperands (label : String)
  | invalidPattern (pattern : String)
  | controlNotFound (id : String)
  | unsupportedElement (id tag : String)
  | unregisteredValidator (name : String)
  | asynchronousInSynchronousRun (name : String)
  | rejected (name reason : String)
  | timedOut (name : String) (milliseconds : Nat)
  | localeNotFound (name : String)
  | noActiveLocale
  | invalidLocale (name : String) (refusal : DateFormat.Refusal)
  | configuration (problem : ConfigurationProblem)
  | unreadableFile
  deriving Repr, DecidableEq

namespace Error

def message : Error → String
  | .missingAttribute kind name =>
      "Missing attribute '" ++ name ++ "' on " ++ kind ++ " validator"
  | .unknownRuleKind text => "Unknown validator kind: " ++ text
  | .unknownOperator text => "Unknown validator operator: " ++ text
  | .conflictingOperands label =>
      "Validator on '" ++ label ++ "' declares both a compare value and a compare control"
  | .invalidPattern pattern => "Invalid pattern '" ++ pattern ++ "'"
  | .controlNotFound id => "Unable to find the control: " ++ id
  | .unsupportedElement id tag =>
      "Control '" ++ id ++ "' is a <" ++ tag ++
        ">; only input, select or textarea can be validated"
  | .unregisteredValidator name => "Unregistered custom validator: " ++ name
  | .asynchronousInSynchronousRun name =>
      "Custom validator '" ++ name ++
        "' is asynchronous and cannot run in a synchronous validation"
  | .rejected name reason => "Custom validator '" ++ name ++ "' rejected: " ++ reason
  | .timedOut name milliseconds =>
      "Custom validator '" ++ name ++ "' timed out after " ++ toString milliseconds ++ " ms"
  | .localeNotFound name => "Locale not found: " ++ name
  | .noActiveLocale => "No locale is active"
  | .invalidLocale name refusal => "Invalid locale '" ++ name ++ "': " ++ refusal.message
  | .configuration problem => "Configuration error: " ++ problem.message
  | .unreadableFile => "IO error"

/-- Whether the cause lies in what was declared or configured. -/
def isConfiguration : Error → Bool
  | .rejected _ _ | .timedOut _ _ | .unreadableFile => false
  | _ => true

end Error
end FormValidation
