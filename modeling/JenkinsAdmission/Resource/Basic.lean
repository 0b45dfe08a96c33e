import JenkinsAdmission.Unicode.CodePoint

/-!
# The Jenkins resource

What the operator is asked to reconcile: a Jenkins instance with its **seed jobs**, each of which
may refer to a deploy key in a secret, and its **backup mode**. Secrets are addressed by a
**coordinate**, and a resource refers to secrets of its own namespace only.
-/

namespace JenkinsAdmission

/-- The address of a secret. -/
structure Coordinate where
  /-- the namespace -/
  ns : Text
  /-- the name within it -/
  name : Text
  deriving DecidableEq

namespace Coordinate

/-- `namespace/name`. -/
def path (c : Coordinate) : Text :=
  c.ns ++ "/" ++ c.name

/-- Coordinates are ordered by namespace, then by name. -/
def le (a b : Coordinate) : Bool :=
  if a.ns = b.ns then a.name.le b.name else a.ns.le b.ns

end Coordinate

/-- A reference to one value of a secret. -/
structure SecretKeyRef where
  /-- the name of the secret -/
  name : Text
  /-- the key of the value -/
  key : Text
  deriving DecidableEq

/-- A job that creates other jobs from a repository. -/
structure SeedJob where
  /-- the identifier -/
  id : Text
  /-- the address of the repository -/
  repositoryUrl : Text
  /-- the deploy key -/
  privateKey : Option SecretKeyRef
  /-- the branch to check out -/
  repositoryBranch : Text
  /-- the scripts to run -/
  targets : Text
  /-- a description for people -/
  description : Text
  deriving DecidableEq

/-- How the instance is backed up. -/
inductive BackupMode
  /-- not at all -/
  | noBackup
  /-- to Amazon S3, which takes credentials -/
  | amazonS3
  deriving DecidableEq

namespace BackupMode

/-- Every mode. -/
def all : List BackupMode := [noBackup, amazonS3]

/-- The name of a mode in a manifest. -/
def name : BackupMode → Text
  | noBackup => "NoBackup"
  | amazonS3 => "AmazonS3"

/-- The mode of a name. -/
def ofName? (t : Text) : Option BackupMode :=
  all.find? fun m => m.name == t

end BackupMode

/-- A Jenkins instance as declared. -/
structure Jenkins where
  /-- the name of the resource -/
  name : Text
  /-- the namespace of the resource and of all secrets it refers to -/
  ns : Text
  /-- the seed jobs in the order of declaration -/
  seedJobs : List SeedJob
  /-- the backup mode -/
  backup : BackupMode
  deriving DecidableEq

namespace Jenkins

/-- The address of the resource. -/
def coordinate (j : Jenkins) : Coordinate := ⟨j.ns, j.name⟩

/-- The address of a secret that the resource refers to by name. -/
def secret (j : Jenkins) (name : Text) : Coordinate := ⟨j.ns, name⟩

end Jenkins

/-! ## Names that the operator derives -/

/-- The name of the operator where nobody gives another. -/
def defaultOperatorName : Text := "jenkins-operator"

/-- The first of two names that is given and not empty, and the default name if neither is. -/
def operatorName (override environment : Option Text) : Text :=
  match [override, environment].findSome? fun name => name.filter fun t => !t.isEmpty with
  | some name => name
  | none => defaultOperatorName

/-- The name of the secret that holds the backup credentials of an instance. -/
def backupSecretName (operator instanceName : Text) : Text :=
  operator ++ "-backup-credentials-" ++ instanceName

end JenkinsAdmission
