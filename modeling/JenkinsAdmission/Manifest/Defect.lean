import JenkinsAdmission.Base64
import JenkinsAdmission.Files
import JenkinsAdmission.Platform
import JenkinsAdmission.Value.Quoted

/-!
# Defects of manifests

Everything that can be wrong with a manifest: with the **file**, with the **Jenkins resource** in
it, or with a **secret** in it. A field of the wrong kind is named by its path from the root of the
document.
-/

namespace JenkinsAdmission

/-- A part of a seed job in a manifest. -/
inductive SeedJobField
  /-- the seed job itself -/
  | whole
  /-- its identifier -/
  | id
  /-- the address of its repository -/
  | repositoryUrl
  /-- its deploy key -/
  | privateKey
  /-- the reference to the value that is the deploy key -/
  | secretKeyRef
  /-- the secret of the reference -/
  | secretName
  /-- the key of the reference -/
  | secretKey
  /-- the branch to check out -/
  | repositoryBranch
  /-- the scripts to run -/
  | targets
  /-- the description -/
  | description
  deriving DecidableEq

namespace SeedJobField

/-- The path of a part from the seed job on. -/
def path : SeedJobField → Text
  | whole => ""
  | id => ".id"
  | repositoryUrl => ".repositoryUrl"
  | privateKey => ".privateKey"
  | secretKeyRef => ".privateKey.secretKeyRef"
  | secretName => ".privateKey.secretKeyRef.name"
  | secretKey => ".privateKey.secretKeyRef.key"
  | repositoryBranch => ".repositoryBranch"
  | targets => ".targets"
  | description => ".description"

/-- What a part has to be. -/
def wanted : SeedJobField → Text
  | whole => "mapping"
  | privateKey => "mapping"
  | secretKeyRef => "mapping"
  | _ => "string"

end SeedJobField

/-- A field of a Jenkins manifest that has to be of a certain kind. -/
inductive JenkinsField
  /-- the specification -/
  | spec
  /-- the list of seed jobs -/
  | seedJobs
  /-- a part of the seed job at an index -/
  | seedJob (index : Nat) (part : SeedJobField)
  deriving DecidableEq

namespace JenkinsField

/-- The path of a field. -/
def path : JenkinsField → Text
  | spec => "spec"
  | seedJobs => "spec.seedJobs"
  | seedJob index part => "spec.seedJobs[" ++ Text.ofNat index ++ "]" ++ part.path

/-- What a field has to be. -/
def wanted : JenkinsField → Text
  | spec => "mapping"
  | seedJobs => "list"
  | seedJob _ part => part.wanted

end JenkinsField

/-- What is wrong with a Jenkins manifest. -/
inductive JenkinsDefect
  /-- it declares something else -/
  | wrongKind (kind : Text)
  /-- it has no name -/
  | unnamed
  /-- a field is of the wrong kind -/
  | illFormed (field : JenkinsField)
  /-- the backup mode is unknown -/
  | unsupportedBackup (mode : Text)
  deriving DecidableEq

/-- The wording of a defect of a Jenkins manifest. -/
def JenkinsDefect.message : JenkinsDefect → Text
  | wrongKind kind => "Expected a Jenkins resource, got kind '" ++ kind ++ "'"
  | unnamed => "Jenkins resource must have metadata.name"
  | illFormed field => "Field '" ++ field.path ++ "' must be a " ++ field.wanted
  | unsupportedBackup mode =>
    "Unsupported backup type '" ++ mode ++ "'. Supported types: "
      ++ Text.join ", " (BackupMode.all.map BackupMode.name)

/-- A field of a secret manifest that has to be a mapping. -/
inductive SecretField
  /-- the metadata -/
  | metadata
  /-- the base64 texts -/
  | data
  /-- the plain texts -/
  | stringData
  deriving DecidableEq

/-- The key of a field. -/
def SecretField.key : SecretField → Text
  | metadata => "metadata"
  | data => "data"
  | stringData => "stringData"

/-- What is wrong with the base64 texts of a secret manifest. -/
inductive DataDefect
  /-- one of them is no base64 -/
  | encoding (defect : Base64.Defect)
  /-- one of them, or its key, is an integer with too many digits to be written -/
  | numeralTooLong
  deriving DecidableEq

/-- The wording of a defect of base64 texts. -/
def DataDefect.message : DataDefect → Text
  | encoding defect => defect.message
  | numeralTooLong =>
    "Exceeds the limit (4300 digits) for integer string conversion; "
      ++ "use sys.set_int_max_str_digits() to increase the limit"

/-- What is wrong with a secret manifest. -/
inductive SecretDefect
  /-- a field is no mapping -/
  | illFormed (field : SecretField)
  /-- it has no name -/
  | unnamed
  /-- its base64 texts cannot be decoded -/
  | malformedData (defect : DataDefect)
  deriving DecidableEq

/-- The wording of a defect of a secret manifest in a file. -/
def SecretDefect.message (path : Text) : SecretDefect → Text
  | illFormed field =>
    "Field '" ++ field.key ++ "' of Secret in '" ++ path ++ "' must be a mapping"
  | unnamed => "Secret in '" ++ path ++ "' must have metadata.name"
  | malformedData defect =>
    "Secret in '" ++ path ++ "' contains malformed base64 data: " ++ defect.message

/-- What is wrong with a file. -/
inductive FileDefect
  /-- it does not exist -/
  | missing
  /-- it cannot be read -/
  | unreadable (why : ReadFailure)
  /-- it is no YAML, in the words of the reader -/
  | malformed (words : Text)
  /-- it holds several documents -/
  | severalDocuments
  /-- its document is no mapping -/
  | notMapping
  /-- it holds no document -/
  | empty
  deriving DecidableEq

/-- The wording of a defect of a file. -/
def FileDefect.message (path : Text) : FileDefect → Text
  | missing => "Manifest file '" ++ path ++ "' does not exist"
  | unreadable why =>
    "Manifest file '" ++ path ++ "' cannot be read: " ++ why.message ++ ": " ++ path.quoted
  | malformed words => "Manifest file '" ++ path ++ "' contains malformed YAML: " ++ words
  | severalDocuments =>
    "File '" ++ path
      ++ "' contains multiple YAML documents. Only single document files are supported."
  | notMapping =>
    "File '" ++ path
      ++ "' does not contain a valid YAML mapping. Expected a Kubernetes resource document."
  | empty => "Manifest file '" ++ path ++ "' is empty"

/-- What is wrong with a manifest. -/
inductive ManifestDefect
  /-- the file -/
  | file (path : Text) (defect : FileDefect)
  /-- the Jenkins resource -/
  | jenkins (defect : JenkinsDefect)
  /-- a secret -/
  | secret (path : Text) (defect : SecretDefect)
  deriving DecidableEq

/-- The wording of a defect. -/
def ManifestDefect.message : ManifestDefect → Text
  | file path defect => defect.message path
  | jenkins defect => defect.message
  | secret path defect => defect.message path

/-- Why a manifest is not loaded. -/
inductive ManifestFault
  /-- something is wrong with it -/
  | rejected (defect : ManifestDefect)
  /-- the run broke down -/
  | broken (cause : Breakdown)
  deriving DecidableEq

end JenkinsAdmission
