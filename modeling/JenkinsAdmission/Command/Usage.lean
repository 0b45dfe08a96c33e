import JenkinsAdmission.Files
import JenkinsAdmission.Value.Quoted

/-!
# The usage of the command

What is printed about the command itself: its help, its version, and what is wrong with a command
line.
-/

namespace JenkinsAdmission

/-- Something on the command line that names a file. -/
inductive PathArgument
  /-- the file with secrets -/
  | secrets
  /-- the manifest of the resource -/
  | manifest
  deriving DecidableEq

/-- What a file is called in a message about the command line. -/
def PathArgument.hint : PathArgument → Text
  | secrets => "'--secrets' / '-s'"
  | manifest => "'[MANIFEST]'"

/-- What is wrong with a command line. -/
inductive UsageDefect
  /-- there is no such option, but perhaps some that are similar -/
  | unknownOption (name : Text) (similar : List Text)
  /-- an option without its value -/
  | valueMissing (name : Text)
  /-- a value for an option that takes none -/
  | valueUnwanted (name : Text)
  /-- a file that has to exist does not -/
  | fileMissing (argument : PathArgument) (path : Text)
  /-- a directory in place of a file -/
  | fileIsDirectory (argument : PathArgument) (path : Text)
  /-- arguments after the manifest -/
  | extraArguments (arguments : List Text)
  /-- no manifest -/
  | manifestMissing
  deriving DecidableEq

namespace UsageDefect

/-- The question after the name of an option that does not exist. -/
def question : List Text → Text
  | [] => ""
  | [name] => " Did you mean " ++ name.quoted ++ "?"
  | names => " (Did you mean one of: " ++ Text.join ", " (names.map Text.quoted) ++ "?)"

/-- The wording of a defect. -/
def message : UsageDefect → Text
  | unknownOption name similar => "No such option " ++ name.quoted ++ "." ++ question similar
  | valueMissing name => "Option " ++ name.quoted ++ " requires an argument."
  | valueUnwanted name => "Option " ++ name.quoted ++ " does not take a value."
  | fileMissing argument path =>
    "Invalid value for " ++ argument.hint ++ ": File " ++ (Path.shown path).quoted ++ " does not exist."
  | fileIsDirectory argument path =>
    "Invalid value for " ++ argument.hint ++ ": File " ++ (Path.shown path).quoted ++ " is a directory."
  | extraArguments [argument] => "Got unexpected extra argument (" ++ argument ++ ")"
  | extraArguments arguments =>
    "Got unexpected extra arguments (" ++ Text.join " " arguments ++ ")"
  | manifestMissing => "Missing argument 'MANIFEST'."

/-- Whether the usage of the command is recalled in front of the wording. It is not where an option
and its value do not fit together. -/
def recallsUsage : UsageDefect → Bool
  | valueMissing _ => false
  | valueUnwanted _ => false
  | _ => true

end UsageDefect

namespace Command

/-- The version of the command, on a line. -/
def versionText : Text := "0.1.0\n"

/-- How the command is used, on a line. -/
def usageLine : Text := "Usage: jenkins-preflight [OPTIONS] [MANIFEST]\n"

/-- The help of the command. -/
def helpText : Text := usageLine ++ ([
  "",
  "  Validate a Jenkins resource before it is reconciled",
  "",
  "Options:",
  "  -v, --version         print version",
  "  --debug               print debug information",
  "  -s, --secrets FILE    validate offline against Secret manifests from this file",
  "  -n, --namespace TEXT  namespace for manifests without one  [default: default]",
  "  --select              prompt for context select",
  "  --in-cluster          use in-cluster configuration",
  "  --full                run backup checks even if seed jobs are invalid",
  "  --operator-name TEXT  operator name used to derive the backup credentials",
  "                        secret name",
  "  --help                Show this message and exit."]
    : List Text).flatMap fun line => line ++ ("\n" : Text)

/-- An error on a line. -/
def errorLine (message : Text) : Text := "Error: " ++ message ++ "\n"

/-- What is printed about a defect of the command line. -/
def usageText (defect : UsageDefect) : Text :=
  let recalled : Text :=
    if defect.recallsUsage then
      usageLine ++ "Try 'jenkins-preflight --help' for help.\n\n"
    else ""
  recalled ++ errorLine defect.message

end Command

end JenkinsAdmission
