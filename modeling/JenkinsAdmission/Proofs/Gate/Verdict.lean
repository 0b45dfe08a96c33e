import JenkinsAdmission.Proofs.Gate.Course

/-!
# The verdict of validation

What has to hold of a resource, and of the secrets that it refers to, for the gate to let it pass.
The conditions are stated on the answers of the store and on the resource alone, without runs,
defects or complaints:

* `SeedJob.Sound`: the job has an identifier, does without a deploy key only if its repository is
  not reached over SSH, and the deploy key that it names is **usable**;
* `Jenkins.CredentialsComplete`: both credentials of the backup are there;
* `Jenkins.Safe`: every seed job is sound, and so is a backup to Amazon S3.

`Gate.validate_eq_ok_true_iff` says that the verdict is `true` for exactly the resources that are
safe. Full diagnostics have no part in it.
-/

namespace JenkinsAdmission

variable [Platform]

/-! ## The conditions -/

/-- The answer for a secret has data with a deploy key under a key, and the deploy key is
accepted. -/
def Answers.UsableKey (answers : Answers) (secret : Coordinate) (key : Text) : Prop :=
  ∃ data material, answers secret = .ok data ∧ data.get? key = some material ∧ material ≠ [] ∧
    keyDefect? material = .ok none

/-- A seed job that may be run. -/
structure SeedJob.Sound (answers : Answers) (ns : Text) (job : SeedJob) : Prop where
  /-- it has an identifier -/
  id_ne : job.id ≠ []
  /-- it names a deploy key if its repository is reached over SSH -/
  keyed : ¬(isSshUrl job.repositoryUrl = true ∧ job.privateKey = none)
  /-- the deploy key that it names is usable -/
  usable : ∀ ref, job.privateKey = some ref → answers.UsableKey ⟨ns, ref.name⟩ ref.key

/-- The answer for the backup credentials of an instance has data with a value under both keys. -/
def Jenkins.CredentialsComplete (answers : Answers) (operator : Text) (j : Jenkins) : Prop :=
  ∃ data, answers ⟨j.ns, operator ++ "-backup-credentials-" ++ j.name⟩ = .ok data ∧
    ∀ key ∈ [("secret-key" : Text), "access-key"], ∃ value, data.get? key = some value ∧ value ≠ []

/-- A resource that may be reconciled. -/
structure Jenkins.Safe (answers : Answers) (operator : Text) (j : Jenkins) : Prop where
  /-- every seed job is sound -/
  seedJobs : ∀ job ∈ j.seedJobs, job.Sound answers j.ns
  /-- a backup to Amazon S3 has its credentials -/
  backup : j.backup = .amazonS3 → j.CredentialsComplete answers operator

/-- The names that the operator may go by, the first one that is not empty before the others. -/
def Gate.operatorNames (g : Gate) (environment : Option Text) : List Text :=
  [g.operatorName.getD [], environment.getD [], "jenkins-operator"]

/-! ## Seed jobs -/

namespace SeedJob

variable {answers : Answers} {ns : Text} {job : SeedJob}

omit [Platform] in
/-- There is nothing to complain about in the fields of a named job, if an address over SSH comes
with a key. -/
theorem ownDefects_eq_nil_iff :
    job.ownDefects = [] ↔
      job.id ≠ [] ∧ ¬(isSshUrl job.repositoryUrl = true ∧ job.privateKey = none) := by
  unfold ownDefects
  cases job.id <;> cases job.privateKey <;> simp

/-- No defect is found in exactly the deploy keys that are there and accepted. -/
theorem keyDefect?_eq_ok_none_iff {secret : Coordinate} {ref : SecretKeyRef}
    {answer : Option SecretData} :
    keyDefect? secret ref answer = .ok none ↔
      ∃ data material, answer = some data ∧ data.get? ref.key = some material ∧ material ≠ [] ∧
        JenkinsAdmission.keyDefect? material = .ok none := by
  cases answer with
  | none => simp [keyDefect?]
  | some data =>
    cases hmaterial : data.get? ref.key with
    | none => simp [keyDefect?, SecretData.value, hmaterial]
    | some material =>
      by_cases hempty : material = []
      · simp [keyDefect?, SecretData.value, hmaterial, hempty]
      · simp [keyDefect?, SecretData.value, hmaterial, hempty, Except.map_eq_ok_iff]

omit [Platform] in
theorem find?_eq_ok_some_iff {c : Coordinate} {data : SecretData} :
    answers.find? c = .ok (some data) ↔ answers c = .ok data := by
  unfold Answers.find?
  rcases answers c with fault | found
  · cases fault <;> simp
  · simp

/-- There is no finding on a seed job whose key, if it has one, is usable. -/
theorem finding_eq_ok_none_iff :
    job.finding answers ns = .ok none ↔
      ∀ ref, job.privateKey = some ref → answers.UsableKey ⟨ns, ref.name⟩ ref.key := by
  cases hkey : job.privateKey with
  | none => simp [finding_of_none hkey]
  | some ref =>
    rw [finding_of_some hkey, Except.bind_eq_ok_iff]
    simp only [Except.mapError_eq_ok_iff, keyDefect?_eq_ok_none_iff, Option.some.injEq,
      forall_eq', Answers.UsableKey]
    constructor
    · rintro ⟨_, hfind, data, material, rfl, hrest⟩
      exact ⟨data, material, find?_eq_ok_some_iff.mp hfind, hrest⟩
    · rintro ⟨data, material, hget, hrest⟩
      exact ⟨some data, find?_eq_ok_some_iff.mpr hget, data, material, rfl, hrest⟩

/-- A job is sound when no fault ends its check and no defect is found. -/
theorem sound_iff :
    job.Sound answers ns ↔ job.fault? answers ns = none ∧ job.isSound answers ns = true := by
  have hfound : job.finding answers ns = .ok none ↔
      job.fault? answers ns = none ∧ job.keyDefects answers ns = [] := by
    unfold fault? keyDefects
    rcases job.finding answers ns with fault | defect <;> simp
  have hsound : job.Sound answers ns ↔
      job.ownDefects = [] ∧ job.finding answers ns = .ok none := by
    rw [ownDefects_eq_nil_iff, finding_eq_ok_none_iff]
    exact ⟨fun h => ⟨⟨h.id_ne, h.keyed⟩, h.usable⟩, fun h => ⟨h.1.1, h.1.2, h.2⟩⟩
  rw [hsound, hfound, isSound]
  simp only [Bool.and_eq_true, List.isEmpty_iff]
  tauto

end SeedJob

/-! ## The backup -/

omit [Platform] in
theorem SecretData.value_ne_nil_iff {data : SecretData} {key : Text} :
    data.value key ≠ [] ↔ ∃ value, data.get? key = some value ∧ value ≠ [] := by
  unfold value
  cases data.get? key <;> simp

omit [Platform] in
/-- No credential is missing when both have a value that is not empty. -/
theorem SecretData.missingCredentials_eq_nil_iff {data : SecretData} :
    data.missingCredentials = [] ↔
      ∀ key ∈ [("secret-key" : Text), "access-key"],
        ∃ value, data.get? key = some value ∧ value ≠ [] := by
  simp only [missingCredentials, credentialKeys, List.filter_eq_nil_iff, List.isEmpty_iff,
    ← ne_eq, value_ne_nil_iff]

namespace Jenkins

variable {answers : Answers} {operator : Text} {j : Jenkins}

omit [Platform] in
/-- The backup is checked without fault or gap when its credentials are complete. -/
theorem backup_iff :
    (j.backup = .amazonS3 → j.CredentialsComplete answers operator) ↔
      j.backupFault? answers operator = none ∧ j.backupGaps answers operator = [] := by
  unfold backupFault? backupGaps backupSecret? CredentialsComplete
  cases j.backup with
  | noBackup => simp
  | amazonS3 =>
    simp only [true_implies, secret, backupSecretName]
    cases answers ⟨j.ns, operator ++ "-backup-credentials-" ++ j.name⟩ with
    | error fault => simp
    | ok data => simp [SecretData.missingCredentials_eq_nil_iff]

/-- The seed jobs are checked without fault when each of them is sound. -/
theorem seedJobs_iff :
    (∀ job ∈ j.seedJobs, job.Sound answers j.ns) ↔
      j.seedJobFault? answers = none ∧ j.seedJobsSound answers = true := by
  simp only [SeedJob.sound_iff, seedJobFault?, seedJobsSound, List.findSome?_eq_none_iff,
    List.all_eq_true]
  exact ⟨fun h => ⟨fun job hjob => (h job hjob).1, fun job hjob => (h job hjob).2⟩,
    fun h job hjob => ⟨h.1 job hjob, h.2 job hjob⟩⟩

theorem safe_iff :
    j.Safe answers operator ↔
      (j.seedJobFault? answers = none ∧ j.seedJobsSound answers = true) ∧
        j.backupFault? answers operator = none ∧ j.backupGaps answers operator = [] := by
  rw [← seedJobs_iff, ← backup_iff]
  exact ⟨fun h => ⟨h.seedJobs, h.backup⟩, fun h => ⟨h.1, h.2⟩⟩

end Jenkins

/-! ## The verdict -/

namespace Gate

variable (g : Gate) (environment : Option Text)

omit [Platform] in
/-- The operator goes by the first of its names that is not empty. -/
theorem find?_operatorNames :
    (g.operatorNames environment).find? (fun name => !name.isEmpty) =
      some (g.operator environment) := by
  unfold operatorNames operator JenkinsAdmission.operatorName
  rcases g.operatorName with _ | (_ | ⟨a, s⟩) <;> rcases environment with _ | (_ | ⟨b, t⟩) <;> rfl

/-- The verdict in terms of faults and complaints. -/
theorem outcome_validate_eq_ok_true_iff (store : Store) (j : Jenkins) :
    (g.validate environment store j).outcome = .ok true ↔
      (j.seedJobFault? store.get = none ∧ j.seedJobsSound store.get = true) ∧
        j.backupFault? store.get (g.operator environment) = none ∧
        j.backupGaps store.get (g.operator environment) = [] := by
  rcases validate_cases g environment store j with
    ⟨fault, hfault, hrun⟩ | ⟨hfault, -, hrun⟩ | ⟨hfault, hsound, -, hrun⟩
  · simp [hrun, hfault]
  · rw [hrun, hfault, settled_eq_ok_true]
    simp only [Bool.and_eq_true, List.isEmpty_iff, true_and]
    tauto
  · simp [hrun, hfault, hsound]

/-- **The verdict is sound and complete.** For every store and every resource the gate answers
`true` if and only if the resource is safe, where the credentials of the backup go by the first name
of the operator that is not empty. -/
theorem validate_eq_ok_true_iff (store : Store) (j : Jenkins) :
    (g.validate environment store j).outcome = .ok true ↔
      ∃ operator, (g.operatorNames environment).find? (fun name => !name.isEmpty) = some operator ∧
        j.Safe store.get operator := by
  rw [outcome_validate_eq_ok_true_iff, ← Jenkins.safe_iff, find?_operatorNames]
  simp

end Gate

end JenkinsAdmission
