import JenkinsAdmission.Gate.Basic

/-!
# Notes

What is noted for whoever debugs while a resource is validated. The notes follow the checks of the
gate step by step and end where a check ends with a fault. No check depends on them, and they go
their own way: there are none in the trace of a run.
-/

namespace JenkinsAdmission

/-- What is noted after a step, if the step succeeds. -/
def notesAfter {ε α : Type} (step : Except ε α) (notes : α → List Note) : List Note :=
  match step with
  | .ok a => notes a
  | .error _ => []

/-- What is noted where a store is asked for a secret: a request to a cluster. -/
def Store.notes (s : Store) (c : Coordinate) : List Note :=
  match s.source with
  | .manifests => []
  | .cluster => [.request c]

/-- What is noted about key material: the label of its block. -/
def keyNotes (material : Bytes) : List Note :=
  (Pem.decode? material).toList.map fun content => .label content.label

/-- The keys of data in order. -/
def SecretData.sortedKeys (d : SecretData) : List Text :=
  (d.map Prod.fst).mergeSort Text.le

variable [Platform]

namespace SeedJob

/-- What is noted about a seed job of a namespace. -/
def notes (store : Store) (ns : Text) (job : SeedJob) : List Note :=
  .seedJob job ::
    match job.privateKey with
    | none => []
    | some ref =>
      store.notes ⟨ns, ref.name⟩
        ++ notesAfter (store.get ⟨ns, ref.name⟩) fun data => keyNotes (data.value ref.key)

/-- What is noted about seed jobs of a namespace. -/
def notesAll (store : Store) (ns : Text) : List SeedJob → List Note
  | [] => []
  | job :: rest =>
    job.notes store ns ++ notesAfter (job.check store ns).outcome fun _ => notesAll store ns rest

end SeedJob

/-- What is noted about the backup of a resource. -/
def Jenkins.backupNotes (j : Jenkins) (store : Store) (operator : Text) : List Note :=
  match j.backup with
  | .noBackup => []
  | .amazonS3 =>
    let name := backupSecretName operator j.name
    store.notes (j.secret name)
      ++ notesAfter (store.get (j.secret name)) fun data => [.credentials name data.sortedKeys]

/-- What is noted while a resource is validated. -/
def Gate.notes (g : Gate) (environment : Option Text) (store : Store) (j : Jenkins) : List Note :=
  SeedJob.notesAll store j.ns j.seedJobs ++
    notesAfter (j.checkSeedJobs store).outcome fun seedJobs =>
      .seedJobsSound seedJobs ::
        if !seedJobs && !g.fullDiagnostics then []
        else
          j.backupNotes store (g.operator environment)
            ++ notesAfter (j.checkBackup store (g.operator environment)).outcome fun backup =>
              [.backupSound backup]

end JenkinsAdmission
