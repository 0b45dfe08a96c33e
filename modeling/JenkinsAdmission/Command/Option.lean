import JenkinsAdmission.Command.Similarity

/-!
# The options of the command

A **switch** is on when it is given, and a **setting** takes a value. Every option has a long name
after two dashes, and some have a short one, a single letter after one dash.
-/

namespace JenkinsAdmission

/-- An option without a value. -/
inductive Switch
  /-- print the version -/
  | version
  /-- print notes for whoever debugs -/
  | debug
  /-- ask for the context -/
  | select
  /-- use the configuration of the surrounding pod -/
  | inCluster
  /-- check the backup after seed jobs that are not sound -/
  | full
  /-- print the help -/
  | help
  deriving DecidableEq

/-- An option with a value. -/
inductive Setting
  /-- the file with secrets -/
  | secrets
  /-- the namespace for manifests without one -/
  | defaultNamespace
  /-- the name of the operator -/
  | operatorName
  deriving DecidableEq

/-- An option. -/
inductive CommandOption
  /-- an option without a value -/
  | switch (s : Switch)
  /-- an option with a value -/
  | setting (s : Setting)
  deriving DecidableEq

namespace CommandOption

/-- The options by their long names. -/
def longNames : List (Text × CommandOption) := [
  ("--version", .switch .version),
  ("--debug", .switch .debug),
  ("--secrets", .setting .secrets),
  ("--namespace", .setting .defaultNamespace),
  ("--select", .switch .select),
  ("--in-cluster", .switch .inCluster),
  ("--full", .switch .full),
  ("--operator-name", .setting .operatorName),
  ("--help", .switch .help)]

/-- The options by their letters. -/
def letters : List (CodePoint × CommandOption) := [
  (.scalar 'v', .switch .version),
  (.scalar 's', .setting .secrets),
  (.scalar 'n', .setting .defaultNamespace)]

/-- The option of a long name. -/
def ofLongName? (name : Text) : Option CommandOption :=
  longNames.lookup name

/-- The long names that somebody may have meant by another name. -/
def suggestions (name : Text) : List Text :=
  Similarity.suggestions (longNames.map Prod.fst) name

/-- The option of a letter. -/
def ofLetter? (letter : CodePoint) : Option CommandOption :=
  letters.lookup letter

end CommandOption

end JenkinsAdmission
