import JenkinsAdmission.Gate.Backup
import JenkinsAdmission.Gate.SeedJobs

/-!
# The gate

A resource is safe to reconcile when its seed jobs and its backup are sound. The seed jobs come
first. When they are not sound the backup is checked only for **full diagnostics**, since it cannot
change the verdict any more.
-/

namespace JenkinsAdmission

/-- The settings of the gate. -/
structure Gate where
  /-- whether the backup is checked after seed jobs that are not sound -/
  fullDiagnostics : Bool
  /-- the name of the operator, instead of the one from the environment -/
  operatorName : Option Text
  deriving DecidableEq

namespace Gate

/-- The name of the operator, given the one from the environment. -/
def operator (g : Gate) (environment : Option Text) : Text :=
  JenkinsAdmission.operatorName g.operatorName environment

/-- Whether a resource is safe to reconcile. -/
def validate [Platform] (g : Gate) (environment : Option Text) (store : Store) (j : Jenkins) :
    Run LookupFault Bool := do
  let seedJobs ← j.checkSeedJobs store
  if !seedJobs && !g.fullDiagnostics then pure false
  else
    let backup ← j.checkBackup store (g.operator environment)
    pure (seedJobs && backup)

/-- What the gate in front of a store is called in a listing. -/
def description (g : Gate) (store : Text) : Text :=
  let operator : Text :=
    match g.operatorName with
    | none => "None"
    | some name => name.quoted
  let full : Text := if g.fullDiagnostics then "True" else "False"
  "Validator(store=" ++ store ++ ", full_diagnostics=" ++ full ++ ", operator_name=" ++ operator
    ++ ")"

end Gate

end JenkinsAdmission
