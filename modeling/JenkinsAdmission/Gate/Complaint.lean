import JenkinsAdmission.Key.Verdict
import JenkinsAdmission.Resource.Basic
import JenkinsAdmission.Run

/-!
# Complaints

What validation finds wrong with a resource. Every complaint is shown as one warning, and a resource
is safe exactly when there is none.
-/

namespace JenkinsAdmission

/-- What is wrong with a seed job. -/
inductive SeedJobDefect
  /-- it has no identifier -/
  | emptyId
  /-- its repository is reached over SSH, and it names no deploy key -/
  | keyRequired
  /-- the secret of its deploy key does not exist -/
  | secretMissing (secret : Coordinate)
  /-- the secret of its deploy key has no value under the key -/
  | keyEmpty (ref : SecretKeyRef)
  /-- its deploy key is refused -/
  | keyInvalid (defect : KeyDefect)
  deriving DecidableEq

/-- The wording of a defect. -/
def SeedJobDefect.message : SeedJobDefect → Text
  | emptyId => "seed job id can't be empty"
  | keyRequired => "private key can't be empty while using ssh repository url"
  | secretMissing c => "secret " ++ Markup.highlight c.path ++ " not found"
  | keyEmpty ref =>
    "private key " ++ Markup.highlight ref.key ++ " in secret " ++ Markup.highlight ref.name
      ++ " is empty"
  | keyInvalid defect =>
    "private key is invalid (" ++ defect.failure.name ++ "): " ++ defect.reason

/-- What a seed job is called. -/
def SeedJob.label (job : SeedJob) : Text :=
  if job.id.isEmpty then "<no id>" else job.id

/-- What is wrong with a resource. -/
inductive Complaint
  /-- a defect of a seed job -/
  | seedJob (job : SeedJob) (defect : SeedJobDefect)
  /-- credentials without a value under a key they need -/
  | credential (secretName key : Text)
  deriving DecidableEq

/-- The wording of a complaint. -/
def Complaint.text : Complaint → Text
  | seedJob job defect => "Seed job " ++ Markup.highlight job.label ++ ": " ++ defect.message
  | credential secretName key =>
    "Secret " ++ Markup.highlight secretName ++ " doesn't contain key: " ++ Markup.highlight key

/-- Complaints, shown as warnings in order. -/
def complain {ε : Type} [Platform] [BreaksDown ε] : List Complaint → Run ε Unit
  | [] => pure ()
  | c :: rest => do
    Run.say .warning c.text
    complain rest

end JenkinsAdmission
