import JenkinsAdmission.BuiltIn
import JenkinsAdmission.Command.Basic

/-!
# The executable

The outermost layer: it reads the files that the command line names and the environment, runs the
command on the built-in platform, and prints what there is to print. Files can be validated against
files. There is no way to a cluster from here.
-/

namespace JenkinsAdmission.Main

open scoped BuiltIn

/-- The string of a text. -/
def string (t : Text) : String :=
  String.ofList ((Stream.encodable t).filterMap fun
    | .scalar c => some c
    | .surrogate _ => none)

/-- What stands at a path. -/
def fileState (path : Text) : IO FileState := do
  try
    let contents ← IO.FS.readBinFile (string path)
    pure (.bytes contents.toList)
  catch
    | .inappropriateType .. => pure (.unreadable .directory)
    | _ => pure .missing

/-- Show something on the console. -/
def display : Display → IO Unit
  | .message level body => IO.eprintln (string (level.line body))
  | .spinner body => IO.eprintln (string (spinnerStatus body))
  | .panel p => do
    IO.eprintln (string p.heading)
    for (label, value) in p.cells do
      IO.eprintln (string (label ++ " " ++ value))

/-- The paths that arguments name. -/
def paths (arguments : List Text) : List Text :=
  match CommandLine.ofArguments arguments with
  | .ok line => line.paths
  | .error _ => []

/-- Run the command with a list of arguments. -/
def run (arguments : List Text) : IO UInt32 := do
  let states ← (paths arguments).mapM fun path => do pure (path, ← fileState path)
  let environment ← IO.getEnv "OPERATOR_NAME"
  let host : Host := {
    files := fun path => (states.lookup path).getD .missing
    surroundings := .bare
    environment := environment.map Text.ofString }
  let run := Command.run host arguments
  run.trace.console.forM display
  IO.print (string (Command.stdout run.outcome))
  IO.eprint (string (Command.stderr host arguments))
  pure (Command.exitCode run.outcome).toUInt32

end JenkinsAdmission.Main

/-- Validate a Jenkins resource before it is reconciled. -/
def main (arguments : List String) : IO UInt32 :=
  JenkinsAdmission.Main.run (arguments.map JenkinsAdmission.Text.ofString)
