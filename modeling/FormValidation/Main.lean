import FormValidation.CommandLine.Program

/-!
# The program

Reads the files that the arguments name and the environment, and prints the report.
-/

namespace FormValidation
namespace Program

/-- The texts that a list of names has, each found by `find`. -/
def collect (find : String → IO (Option String)) (names : List String) :
    IO (List (String × String)) :=
  names.filterMapM fun name => do return (← find name).map fun text => (name, text)

def readText (path : String) : IO (Option String) := do
  try return some (← IO.FS.readFile path) catch _ => return none

/-- A word on arguments that are not carried out; it stands in for the messages of a library for arguments. -/
def wording (usage : Usage) : String :=
  if usage.exitCode = 0 then "" else "error: these arguments cannot be carried out\n"

def run (words : List String) : IO UInt32 := do
  let files ← collect readText (paths words)
  let env ← collect (fun name => IO.getEnv name) variableNames
  let report := report wording (fun path => List.lookup path files) (fun name => List.lookup name env) words
  IO.print report.printed
  (← IO.getStderr).putStr report.errors
  return UInt32.ofNat report.exitCode

end Program
end FormValidation

/-- Runs the program with the arguments of the command line. -/
def main (words : List String) : IO UInt32 :=
  FormValidation.Program.run words
