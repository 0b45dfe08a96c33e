import JenkinsAdmission.Cluster
import JenkinsAdmission.Command.Arguments
import JenkinsAdmission.Command.Stream
import JenkinsAdmission.Gate.Notes
import JenkinsAdmission.Manifest.Secrets

/-!
# The command

A command line is a request, and a request for a validation loads the manifest, opens a store of
secrets, asks the gate for a verdict and sums it up. The command runs in a `Host`: the files and
clusters around it and the name of the operator in the environment.

How the command ends is a value, from which follow its exit code and what it prints. The codes are

* 0 for help, the version, and a resource that is safe,
* 1 for a resource that is not, and for a manifest that is not loaded,
* 2 for a command line that is no request,
* 3 for a cluster or a store that fails.

An error about a cluster or a store is shown with the texts of others in it as they are. Where the
console cannot draw it, the run breaks down at that point, with the code 1.
-/

namespace JenkinsAdmission

/-- What is around the command. -/
structure Host where
  /-- what stands at a path -/
  files : Text → FileState
  /-- how the steps towards a cluster turn out -/
  surroundings : Surroundings
  /-- the name of the operator in the environment -/
  environment : Option Text

/-- What the command has done in the end. -/
inductive Outcome
  /-- it has printed its help -/
  | helped
  /-- it has printed its version -/
  | showedVersion
  /-- it has reached a verdict -/
  | verdict (ok : Bool)
  deriving DecidableEq

/-- Why the command has not done what it was asked for. -/
inductive CommandFault
  /-- something is wrong with the command line -/
  | usage (defect : UsageDefect)
  /-- something is wrong with a manifest -/
  | manifest (defect : ManifestDefect)
  /-- no cluster was reached -/
  | cluster
  /-- the store failed -/
  | store
  /-- nobody chose a context -/
  | aborted
  /-- the run broke down -/
  | broken (cause : Breakdown)
  deriving DecidableEq

namespace CommandFault

instance : BreaksDown CommandFault := ⟨.broken⟩

/-- A fault of the command line as a fault of the command. -/
def ofUsage : UsageFault → CommandFault
  | .rejected defect => .usage defect
  | .broken cause => .broken cause

/-- A fault of a manifest as a fault of the command. -/
def ofManifest : ManifestFault → CommandFault
  | .rejected defect => .manifest defect
  | .broken cause => .broken cause

/-- A fault of a cluster as a fault of the command. -/
def ofCluster : ClusterFault → CommandFault
  | .podConfiguration _ => .cluster
  | .contextConfiguration _ => .cluster
  | .cancelled => .aborted
  | .broken cause => .broken cause

/-- A fault of a lookup as a fault of the command. -/
def ofLookup : LookupFault → CommandFault
  | .broken cause => .broken cause
  | _ => .store

end CommandFault

namespace Command

variable [Platform]

/-- Show what is to be said about a fault and fail. -/
def report {α : Type} (introduction : Text) (message : Option Text) (fault : CommandFault) :
    Run CommandFault α := do
  match message with
  | some words => Run.say .error (introduction ++ words)
  | none => pure ()
  Run.fail fault

/-- Report a fault of a cluster. -/
def reportCluster {α : Type} (fault : ClusterFault) : Run CommandFault α :=
  report "Cluster connection failed: " fault.message? (.ofCluster fault)

/-- Report a fault of a lookup. -/
def reportLookup {α : Type} (fault : LookupFault) : Run CommandFault α :=
  report "Secret store error: " fault.message? (.ofLookup fault)

/-- The result of loading a manifest. -/
def load {α : Type} (r : Except ManifestFault α) : Run CommandFault α :=
  Run.ofExcept (r.mapError .ofManifest)

/-- The store for an order: the secrets of a file, or those of a cluster. -/
def openStore (h : Host) (o : Order) (defaultNamespace : Text) : Run CommandFault Store :=
  match o.secrets with
  | some path => do
    Run.say .info ("Validating offline against secrets from " ++ Markup.highlight path)
    Secrets.store <$> load (Manifest.loadSecrets defaultNamespace path (h.files path))
  | none => do
    let _ ← (Cluster.connect o.select o.inCluster h.surroundings).handle reportCluster
    pure h.surroundings.api.store

/-- Ask the gate for a verdict, with a spinner. -/
def askGate (h : Host) (o : Order) (store : Store) (j : Jenkins) : Run LookupFault Bool := do
  Run.display (.spinner "Checking seed jobs and backup credentials...")
  Gate.validate ⟨o.full, o.operatorName⟩ h.environment store j

/-- The panel that sums up a verdict. -/
def summary (j : Jenkins) (ok : Bool) : Panel where
  title := "Pre-flight Validation"
  rows := [
    ("Resource", j.coordinate.path),
    ("Seed jobs", Text.ofNat j.seedJobs.length),
    ("Backup", j.backup.name),
    ("Verdict", if ok then "valid" else "configuration invalid")]
  ok := ok

/-- Sum up a verdict. -/
def sumUp (j : Jenkins) (ok : Bool) : Run CommandFault Unit := do
  Run.display (.panel (summary j ok))
  if ok then Run.say .success (Markup.highlight j.name ++ " is safe to reconcile")
  else Run.say .error (Markup.highlight j.name ++ " has an invalid configuration")

/-- Validate the resource of a manifest. -/
def validate (h : Host) (o : Order) : Run CommandFault Bool := do
  let j ← load (Manifest.loadJenkins o.defaultNamespace o.manifest (h.files o.manifest))
  let store ← openStore h o j.ns
  Run.say .action ("Validating " ++ Markup.highlight j.coordinate.path)
  let ok ← (askGate h o store j).handle reportLookup
  sumUp j ok
  pure ok

/-- Do what is asked for. -/
def perform (h : Host) : Request → Run CommandFault Outcome
  | .help => pure .helped
  | .version => pure .showedVersion
  | .validate o => .verdict <$> validate h o

/-- Run the command with a list of arguments. -/
def run (h : Host) (arguments : List Text) : Run CommandFault Outcome := do
  let request ← Run.ofExcept ((Request.ofArguments h.files arguments).mapError .ofUsage)
  perform h request

/-! ## What others see of it -/

/-- The exit code. -/
def exitCode : Except CommandFault Outcome → Nat
  | .ok (.verdict false) => 1
  | .ok _ => 0
  | .error (.usage _) => 2
  | .error .cluster => 3
  | .error .store => 3
  | .error _ => 1

/-- What is printed on the standard output. -/
def stdout : Except CommandFault Outcome → Text
  | .ok .helped => helpText
  | .ok .showedVersion => versionText
  | _ => ""

/-- What is printed in the end about a fault that the console does not show. -/
def faultText : Except CommandFault Outcome → Text
  | .error (.usage defect) => Stream.shown (usageText defect)
  | .error (.manifest defect) => Stream.shown (errorLine defect.message)
  | .error .aborted => "Aborted!\n"
  | _ => ""

/-- The cause of a breakdown, if there was one. -/
def breakdown? : Except CommandFault Outcome → Option Breakdown
  | .error (.broken cause) => some cause
  | _ => none

/-! ## Notes -/

/-- What is noted while a resource is validated. -/
def notes (h : Host) (o : Order) : List Note :=
  notesAfter (Manifest.loadJenkins o.defaultNamespace o.manifest (h.files o.manifest)) fun j =>
    .resource j ::
      notesAfter (openStore h o j.ns).outcome fun store =>
        Gate.notes ⟨o.full, o.operatorName⟩ h.environment store j

/-- The notes as they are printed, if anybody asked for them. -/
def noted (h : Host) : Request → Text
  | .validate o => if o.debug then (notes h o).flatMap Platform.printed else ""
  | _ => ""

/-- What is printed on the standard error stream besides the console. -/
def stderr (h : Host) (arguments : List Text) : Text :=
  match Request.ofArguments h.files arguments with
  | .ok request => noted h request ++ faultText (perform h request).outcome
  | .error fault => faultText (.error (.ofUsage fault))

end Command

end JenkinsAdmission
