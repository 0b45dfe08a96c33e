import JenkinsAdmission.Manifest.Documents
import JenkinsAdmission.Value.Written

/-!
# The Jenkins resource of a manifest

A document is read as a Jenkins resource field by field, and the first field at fault is reported.
There are two ways of leaving a field out. A field of text, and the reference to a secret, is left
out when it is missing or null. Everywhere else any value that counts as absent will do: an empty
list, zero, `false` or an empty text as well as null.
-/

namespace JenkinsAdmission

namespace Value

/-- The value under a key unless it counts as absent. -/
def given? (v : Value) (key : Text) : Option Value :=
  (v.get? key).filter fun w => !w.isFalsy

/-- The value under a key unless it is null. -/
def nonNull? (v : Value) (key : Text) : Option Value :=
  (v.get? key).filter fun w => !w.isNull

/-- The text of a value. A value without a text ends the run. -/
def textOrBreak [Platform] (v : Value) : Except ManifestFault Text :=
  v.written.mapError .broken

end Value

namespace Manifest

/-- A field that has to be a mapping. -/
def expectMapping (v : Value) (field : JenkinsField) : Except JenkinsDefect Unit :=
  if v.isMapping then .ok () else .error (.illFormed field)

/-- A field of text, empty if it is left out. -/
def textField (v : Value) (key : Text) (field : JenkinsField) : Except JenkinsDefect Text :=
  match v.nonNull? key with
  | none => .ok []
  | some w =>
    match w.text? with
    | some t => .ok t
    | none => .error (.illFormed field)

/-- The reference to a secret in the seed job at an index. -/
def secretKeyRef (index : Nat) (v : Value) : Except JenkinsDefect SecretKeyRef := do
  expectMapping v (.seedJob index .secretKeyRef)
  let name ← textField v "name" (.seedJob index .secretName)
  let key ← textField v "key" (.seedJob index .secretKey)
  pure ⟨name, key⟩

/-- The deploy key of the seed job at an index. -/
def privateKey (index : Nat) (job : Value) : Except JenkinsDefect (Option SecretKeyRef) :=
  match job.given? "privateKey" with
  | none => pure none
  | some key => do
    expectMapping key (.seedJob index .privateKey)
    match key.nonNull? "secretKeyRef" with
    | none => pure none
    | some ref => some <$> secretKeyRef index ref

/-- The seed job at an index. -/
def seedJob (index : Nat) (v : Value) : Except JenkinsDefect SeedJob := do
  expectMapping v (.seedJob index .whole)
  let id ← textField v "id" (.seedJob index .id)
  let repositoryUrl ← textField v "repositoryUrl" (.seedJob index .repositoryUrl)
  let privateKey ← privateKey index v
  let repositoryBranch ← textField v "repositoryBranch" (.seedJob index .repositoryBranch)
  let targets ← textField v "targets" (.seedJob index .targets)
  let description ← textField v "description" (.seedJob index .description)
  pure ⟨id, repositoryUrl, privateKey, repositoryBranch, targets, description⟩

/-- The seed jobs from an index on. A pair is no seed job. -/
def seedJobsFrom (index : Nat) : List (Option Value) → Except JenkinsDefect (List SeedJob)
  | [] => .ok []
  | none :: _ => .error (.illFormed (.seedJob index .whole))
  | some v :: rest => do
    let job ← seedJob index v
    let jobs ← seedJobsFrom (index + 1) rest
    pure (job :: jobs)

/-- A fault of a Jenkins manifest. -/
def jenkinsFault (defect : JenkinsDefect) : ManifestFault :=
  .rejected (.jenkins defect)

/-- The backup mode. -/
def backupMode [Platform] (spec : Option Value) : Except ManifestFault BackupMode :=
  match spec.bind fun s => s.given? "backup" with
  | none => .ok .noBackup
  | some v =>
    match v.text?.bind BackupMode.ofName? with
    | some mode => .ok mode
    | none => do throw (jenkinsFault (.unsupportedBackup (← v.textOrBreak)))

/-- Check that a document declares a Jenkins resource. -/
def expectJenkins [Platform] (document : Value) : Except ManifestFault Unit :=
  match document.get? "kind" with
  | none => .error (jenkinsFault (.wrongKind "None"))
  | some kind =>
    if kind.text? = some ("Jenkins" : Text) then .ok ()
    else do throw (jenkinsFault (.wrongKind (← kind.textOrBreak)))

/-- The metadata of a document and the name in it. -/
def metadata (document : Value) : Except ManifestFault (Value × Value) :=
  match document.given? "metadata" with
  | none => .error (jenkinsFault .unnamed)
  | some metadata =>
    match metadata.given? "name" with
    | none => .error (jenkinsFault .unnamed)
    | some name => .ok (metadata, name)

/-- The specification, if there is one. -/
def specification? (document : Value) : Except JenkinsDefect (Option Value) :=
  match document.given? "spec" with
  | none => pure none
  | some spec => do
    expectMapping spec .spec
    pure (some spec)

/-- The items of the list of seed jobs. -/
def seedJobItems (spec : Option Value) : Except JenkinsDefect (List (Option Value)) :=
  match spec.bind fun s => s.given? "seedJobs" with
  | none => .ok []
  | some v =>
    match v.items? with
    | some items => .ok items
    | none => .error (.illFormed .seedJobs)

/-- The text of a namespace, or the default. -/
def namespaceOr [Platform] (default : Text) (metadata : Value) : Except ManifestFault Text :=
  match metadata.given? "namespace" with
  | none => .ok default
  | some ns => ns.textOrBreak

/-- The Jenkins resource that a document declares. -/
def jenkins [Platform] (defaultNamespace : Text) (document : Value) : Except ManifestFault Jenkins := do
  expectJenkins document
  let (metadata, name) ← metadata document
  let spec ← (specification? document).mapError jenkinsFault
  let items ← (seedJobItems spec).mapError jenkinsFault
  let name ← name.textOrBreak
  let ns ← namespaceOr defaultNamespace metadata
  let seedJobs ← (seedJobsFrom 0 items).mapError jenkinsFault
  let backup ← backupMode spec
  pure ⟨name, ns, seedJobs, backup⟩

/-- The Jenkins resource in a file. -/
def loadJenkins [Platform] (defaultNamespace path : Text) (file : FileState) :
    Except ManifestFault Jenkins := do
  match ← mapping? path file with
  | none => throw (fileFault path .empty)
  | some document => jenkins defaultNamespace document

end Manifest

end JenkinsAdmission
