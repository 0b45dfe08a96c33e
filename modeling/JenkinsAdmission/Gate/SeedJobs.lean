import JenkinsAdmission.Gate.Complaint
import JenkinsAdmission.Resource.Address
import JenkinsAdmission.Secret.Store

/-!
# The seed jobs of a resource

A seed job is sound when it has an identifier, names a deploy key if its repository is reached over
SSH, and the deploy key it names is there and accepted. All seed jobs are checked, whatever is wrong
with the ones before; only a store that fails and a key without a verdict end the check. A secret
that does not exist is not such a failure, but a defect of the job.
-/

namespace JenkinsAdmission

namespace SeedJob

/-- The defects that show without looking at a secret. -/
def ownDefects (job : SeedJob) : List SeedJobDefect :=
  (if job.id.isEmpty then [.emptyId] else [])
    ++ (if isSshUrl job.repositoryUrl && job.privateKey.isNone then [.keyRequired] else [])

variable [Platform]

/-- The defect of a deploy key, given the answer of the store to the question for its secret. -/
def keyDefect? (secret : Coordinate) (ref : SecretKeyRef) (answer : Option SecretData) :
    Except Breakdown (Option SeedJobDefect) :=
  match answer with
  | none => .ok (some (.secretMissing secret))
  | some data =>
    if (data.value ref.key).isEmpty then .ok (some (.keyEmpty ref))
    else (JenkinsAdmission.keyDefect? (data.value ref.key)).map (·.map .keyInvalid)

/-- Look the deploy key up and complain about it. Whether it is sound. -/
def checkKey (job : SeedJob) (store : Store) (secret : Coordinate) (ref : SecretKeyRef) :
    Run LookupFault Bool := do
  let answer ← store.lookUp? secret
  let defect ← Run.ofExcept ((keyDefect? secret ref answer).mapError .broken)
  complain (defect.toList.map (.seedJob job))
  pure defect.isNone

/-- Check a seed job of a namespace. Whether it is sound. -/
def check (job : SeedJob) (store : Store) (ns : Text) : Run LookupFault Bool := do
  complain (job.ownDefects.map (.seedJob job))
  match job.privateKey with
  | none => pure job.ownDefects.isEmpty
  | some ref =>
    let sound ← job.checkKey store ⟨ns, ref.name⟩ ref
    pure (job.ownDefects.isEmpty && sound)

/-- Check seed jobs of a namespace, all of them. Whether they are all sound. -/
def checkAll (store : Store) (ns : Text) : List SeedJob → Run LookupFault Bool
  | [] => pure true
  | job :: rest => do
    let sound ← job.check store ns
    let others ← checkAll store ns rest
    pure (sound && others)

end SeedJob

/-- Check the seed jobs of a resource. Whether they are all sound. -/
def Jenkins.checkSeedJobs [Platform] (j : Jenkins) (store : Store) : Run LookupFault Bool :=
  SeedJob.checkAll store j.ns j.seedJobs

end JenkinsAdmission
