import JenkinsAdmission.Command.Option
import JenkinsAdmission.Command.Usage

/-!
# Command lines

A command line is read in two passes. The first goes through the arguments from left to right and
sorts them into options and the rest, which only the spelling of the options decides. The second
checks the files that were named, first the one with secrets and then the manifest, and looks for
arguments that are left over. A request for help comes before the second pass, and a request for the
version after it.

An argument that starts with two dashes is a long option, perhaps with its value after an equals
sign. One that starts with a single dash is a **cluster** of letters, in which a letter for a
setting takes what follows it as its value. A setting that has no value yet takes the next argument,
whatever it looks like. After two dashes on their own everything is left as it is.
-/

namespace JenkinsAdmission

/-- An option as given. -/
inductive GivenOption
  /-- an option without a value -/
  | switch (s : Switch)
  /-- an option with its value -/
  | setting (s : Setting) (value : Text)
  deriving DecidableEq

/-- A command line, sorted. -/
structure CommandLine where
  /-- the options in order -/
  options : List GivenOption
  /-- the other arguments in order -/
  others : List Text
  deriving DecidableEq

/-- A setting that waits for its value, with the name under which it was given. -/
structure PendingSetting where
  /-- the setting -/
  setting : Setting
  /-- the name -/
  name : Text

namespace CommandLine

/-- A command line with options in front. -/
def withOptions (given : List GivenOption) (line : CommandLine) : CommandLine :=
  { line with options := given ++ line.options }

/-- A command line with an argument in front. -/
def withOther (argument : Text) (line : CommandLine) : CommandLine :=
  { line with others := argument :: line.others }

/-- The options of a cluster of letters, and the setting at its end that waits for its value. -/
def cluster : Text → Except UsageDefect (List GivenOption × Option PendingSetting)
  | [] => .ok ([], none)
  | letter :: rest =>
    match CommandOption.ofLetter? letter with
    | none => .error (.unknownOption [.scalar '-', letter] [])
    | some (.switch s) => do
      let (given, pending) ← cluster rest
      pure (.switch s :: given, pending)
    | some (.setting s) =>
      if rest.isEmpty then .ok ([], some ⟨s, [.scalar '-', letter]⟩)
      else .ok ([.setting s rest], none)

/-- The name and the value of a long option. -/
def splitLong (argument : Text) : Text × Option Text :=
  let isEquals (c : CodePoint) := c == .scalar '='
  let name := argument.takeWhile fun c => !isEquals c
  match argument.dropWhile fun c => !isEquals c with
  | [] => (name, none)
  | _ :: value => (name, some value)

/-- A long option, or the setting that waits for its value. -/
def long (argument : Text) : Except UsageDefect (List GivenOption × Option PendingSetting) :=
  let (name, value) := splitLong argument
  match CommandOption.ofLongName? name, value with
  | none, _ => .error (.unknownOption name (CommandOption.suggestions name))
  | some (.switch s), none => .ok ([.switch s], none)
  | some (.switch _), some _ => .error (.valueUnwanted name)
  | some (.setting s), some v => .ok ([.setting s v], none)
  | some (.setting s), none => .ok ([], some ⟨s, name⟩)

/-- Whether an argument spells options: it starts with a dash, and is more than that. -/
def spellsOptions (argument : Text) : Bool :=
  argument.head? == some (.scalar '-') && decide (argument.length > 1)

/-- The options that an argument spells. -/
def spelled (argument : Text) : Except UsageDefect (List GivenOption × Option PendingSetting) :=
  if ([.scalar '-', .scalar '-'] : Text).isPrefixOf argument then long argument
  else cluster argument.tail

/-- Sort arguments, the first of which may be the value of a setting. -/
def sort (pending : Option PendingSetting) : List Text → Except UsageDefect CommandLine
  | [] =>
    match pending with
    | some p => .error (.valueMissing p.name)
    | none => .ok ⟨[], []⟩
  | argument :: rest =>
    match pending with
    | some p => withOptions [.setting p.setting argument] <$> sort none rest
    | none =>
      if argument = "--" then .ok ⟨[], rest⟩
      else if spellsOptions argument then do
        let (given, pending) ← spelled argument
        withOptions given <$> sort pending rest
      else withOther argument <$> sort none rest

/-- The command line of a list of arguments. -/
def ofArguments (arguments : List Text) : Except UsageDefect CommandLine :=
  sort none arguments

/-- Whether a switch is on. -/
def has (line : CommandLine) (s : Switch) : Bool :=
  line.options.contains (.switch s)

/-- The last value of a setting. -/
def value? (line : CommandLine) (s : Setting) : Option Text :=
  line.options.reverse.findSome? fun
    | .setting t v => if t = s then some v else none
    | .switch _ => none

/-- The manifest. -/
def manifest? (line : CommandLine) : Option Text := line.others.head?

/-- The files that a command line names. -/
def paths (line : CommandLine) : List Text :=
  (line.value? .secrets).toList ++ line.manifest?.toList

end CommandLine

/-- What a validation is asked to do. -/
structure Order where
  /-- the path of the manifest -/
  manifest : Text
  /-- the path of the file with secrets, for a validation without a cluster -/
  secrets : Option Text
  /-- the namespace for manifests without one -/
  defaultNamespace : Text
  /-- whether a person selects the context -/
  select : Bool
  /-- whether the configuration of the surrounding pod is used -/
  inCluster : Bool
  /-- whether the backup is checked after seed jobs that are not sound -/
  full : Bool
  /-- the name of the operator -/
  operatorName : Option Text
  /-- whether notes are printed for whoever debugs -/
  debug : Bool
  deriving DecidableEq

/-- What the command is asked for. -/
inductive Request
  /-- the help -/
  | help
  /-- the version -/
  | version
  /-- a validation -/
  | validate (order : Order)
  deriving DecidableEq

/-- Why a command line is no request. -/
inductive UsageFault
  /-- something is wrong with it -/
  | rejected (defect : UsageDefect)
  /-- the run broke down -/
  | broken (cause : Breakdown)
  deriving DecidableEq

namespace Request

/-- Check a path. Only the file with secrets has to exist. What the system cannot reach does not
exist. -/
def checkPath (argument : PathArgument) (path : Text) (state : FileState) :
    Except UsageFault Unit :=
  match Path.breakdown? path, state with
  | some cause, _ => .error (.broken cause)
  | none, .unreadable .directory => .error (.rejected (.fileIsDirectory argument path))
  | none, .bytes _ => .ok ()
  | none, _ =>
    match argument with
    | .secrets => .error (.rejected (.fileMissing argument path))
    | .manifest => .ok ()

/-- Check a path that may not be given. -/
def checkPath? (files : Text → FileState) (argument : PathArgument) :
    Option Text → Except UsageFault Unit
  | none => .ok ()
  | some path => checkPath argument path (files path)

/-- The namespace of manifests without one, if nobody says otherwise. -/
def defaultNamespace : Text := "default"

/-- The validation of a manifest. -/
def order (line : CommandLine) (manifest : Text) : Order where
  manifest := manifest
  secrets := line.value? .secrets
  defaultNamespace := (line.value? .defaultNamespace).getD defaultNamespace
  select := line.has .select
  inCluster := line.has .inCluster
  full := line.has .full
  operatorName := line.value? .operatorName
  debug := line.has .debug

/-- The request of a sorted command line. -/
def ofLine (files : Text → FileState) (line : CommandLine) : Except UsageFault Request :=
  if line.has .help then .ok .help
  else do
    checkPath? files .secrets (line.value? .secrets)
    checkPath? files .manifest line.manifest?
    if !line.others.tail.isEmpty then
      throw (.rejected (.extraArguments line.others.tail))
    if line.has .version then pure .version
    else
      match line.manifest? with
      | none => throw (.rejected .manifestMissing)
      | some manifest => pure (.validate (order line manifest))

/-- The request of a list of arguments. -/
def ofArguments (files : Text → FileState) (arguments : List Text) :
    Except UsageFault Request := do
  ofLine files (← (CommandLine.ofArguments arguments).mapError .rejected)

end Request

end JenkinsAdmission
