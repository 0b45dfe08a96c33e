import JenkinsAdmission.Gate.Complaint
import JenkinsAdmission.Secret.Store

/-!
# The backup of a resource

A backup to Amazon S3 takes credentials: a secret, named after operator and instance, with a value
under each of two keys. That the secret does not exist is a failure here and no mere complaint,
because the backup was asked for.
-/

namespace JenkinsAdmission

/-- The keys of the credentials for Amazon S3, in the order in which they are checked. -/
def credentialKeys : List Text := ["secret-key", "access-key"]

namespace SecretData

/-- The keys of credentials under which there is no value. -/
def missingCredentials (data : SecretData) : List Text :=
  credentialKeys.filter fun key => (data.value key).isEmpty

end SecretData

namespace Jenkins

variable [Platform]

/-- Check the credentials for Amazon S3. Whether they are complete. -/
def checkCredentials (j : Jenkins) (store : Store) (operator : Text) : Run LookupFault Bool := do
  let name := backupSecretName operator j.name
  let data ← store.lookUp (j.secret name)
  complain (data.missingCredentials.map (.credential name))
  pure data.missingCredentials.isEmpty

/-- Check what the backup mode of a resource needs. Whether it is there. -/
def checkBackup (j : Jenkins) (store : Store) (operator : Text) : Run LookupFault Bool :=
  match j.backup with
  | .noBackup => pure true
  | .amazonS3 => j.checkCredentials store operator

end Jenkins

end JenkinsAdmission
