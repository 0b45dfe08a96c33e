import JenkinsAdmission.BuiltIn
import JenkinsAdmission.Proofs.Gate.Verdict

/-!
# Default mode and full diagnostics

After seed jobs that are not sound the gate leaves the backup out, unless it is asked for full
diagnostics. Here the two modes are set side by side on one resource and one store.

* `Gate.validate_modes` says that they are the same run, or else that the seed jobs are not sound
  and the full run is the default run with the check of the backup after it.
* `Gate.Abridges` lists what this means for messages, lookups, verdicts and faults, and
  `Gate.validate_abridges` says that it holds of the two modes.

So the default mode never hides a verdict. What it may hide is a fault of the backup, behind the
verdict `false`.
-/

namespace JenkinsAdmission

section

variable [Platform]

/-- One run of validation leaves out nothing that another does but the end, and this only after a
seed job that is not sound. -/
structure Gate.Abridges (store : Store) (j : Jenkins) (short full : Run LookupFault Bool) :
    Prop where
  /-- the messages of the short run come first -/
  console : short.trace.console <+: full.trace.console
  /-- the lookups of the short run come first -/
  lookups : short.trace.lookups <+: full.trace.lookups
  /-- nothing is left out unless the verdict on the seed jobs is `false` -/
  same : (j.checkSeedJobs store).outcome ≠ .ok false →
    short.trace.console = full.trace.console ∧ short.trace.lookups = full.trace.lookups
  /-- a verdict of the full run is the verdict of the short one -/
  verdict : ∀ ok, full.outcome = .ok ok → short.outcome = .ok ok
  /-- the full run has nothing to add to an approval -/
  approval : short.outcome = .ok true → full = short
  /-- the full run has nothing to add to a fault -/
  fault : ∀ fault, short.outcome = .error fault → full = short
  /-- a fault that only the full run has is one that comes after a seed job that is not sound -/
  hidden : ∀ fault, full.outcome = .error fault →
    short.outcome = .error fault ∨
      (short.outcome = .ok false ∧ ∃ job ∈ j.seedJobs, ¬job.Sound store.get j.ns)

/-- Every run abridges itself. -/
theorem Gate.Abridges.refl (store : Store) (j : Jenkins) (r : Run LookupFault Bool) :
    Gate.Abridges store j r r where
  console := List.prefix_rfl
  lookups := List.prefix_rfl
  same := fun _ => ⟨rfl, rfl⟩
  verdict := fun _ h => h
  approval := fun _ => rfl
  fault := fun _ _ => rfl
  hidden := fun _ h => .inl h

/-- The verdict on the seed jobs is `false` when no fault ends their check and not all are sound. -/
theorem Jenkins.checkSeedJobs_eq_ok_false_iff {j : Jenkins} {store : Store} :
    (j.checkSeedJobs store).outcome = .ok false ↔
      j.seedJobFault? store.get = none ∧ j.seedJobsSound store.get = false := by
  rw [checkSeedJobs_eq]
  cases j.seedJobFault? store.get <;> simp [settled]

/-- Where the seed jobs are not sound, one of them is to blame. -/
theorem Jenkins.exists_not_sound {answers : Answers} {j : Jenkins}
    (h : j.seedJobsSound answers = false) : ∃ job ∈ j.seedJobs, ¬job.Sound answers j.ns := by
  by_contra hnone
  push Not at hnone
  obtain ⟨-, hsound⟩ := Jenkins.seedJobs_iff.mp hnone
  rw [h] at hsound
  cases hsound

namespace Gate

variable (operatorName environment : Option Text) (store : Store) (j : Jenkins)

/-- The two modes are the same run, or the full one goes on with the backup after seed jobs that are
not sound. -/
theorem validate_modes :
    (⟨true, operatorName⟩ : Gate).validate environment store j =
        (⟨false, operatorName⟩ : Gate).validate environment store j ∨
      (j.seedJobFault? store.get = none ∧ j.seedJobsSound store.get = false ∧
        (⟨false, operatorName⟩ : Gate).validate environment store j =
          ⟨.ok false, j.seedJobSteps store⟩ ∧
        ∃ operator, (⟨true, operatorName⟩ : Gate).validate environment store j =
          ⟨settled (j.backupFault? store.get operator) false,
            j.seedJobSteps store ++ j.backupSteps store operator⟩) := by
  cases hfault : j.seedJobFault? store.get with
  | some fault =>
    left
    rw [validate_of_fault _ environment hfault, validate_of_fault _ environment hfault]
  | none =>
    cases hsound : j.seedJobsSound store.get with
    | true =>
      -- both modes check the backup, and under the same name of the operator
      left
      rw [validate_of_backup _ environment hfault (.inl hsound),
        validate_of_backup _ environment hfault (.inl hsound)]
      rfl
    | false =>
      right
      have hshort :=
        validate_of_unsound (⟨false, operatorName⟩ : Gate) environment hfault hsound rfl
      have hfull := validate_of_backup (⟨true, operatorName⟩ : Gate) environment hfault (.inr rfl)
      rw [hsound, Bool.false_and] at hfull
      exact ⟨rfl, rfl, hshort, _, hfull⟩

/-- **The default mode abridges full diagnostics.** For every resource, store and name of the
operator, the default run is the beginning of the full run and has the same verdict, and only a
fault of the backup may be missing from it. -/
theorem validate_abridges :
    Abridges store j ((⟨false, operatorName⟩ : Gate).validate environment store j)
      ((⟨true, operatorName⟩ : Gate).validate environment store j) := by
  rcases validate_modes operatorName environment store j with
    hsame | ⟨hfault, hsound, hshort, operator, hfull⟩
  · rw [hsame]
    exact Abridges.refl store j _
  · -- the modes differ only where the seed jobs are checked without fault and are not sound
    rw [hshort, hfull]
    have hverdict : (j.checkSeedJobs store).outcome = .ok false :=
      Jenkins.checkSeedJobs_eq_ok_false_iff.mpr ⟨hfault, hsound⟩
    refine ⟨?console, ?lookups, ?same, ?verdict, ?approval, ?fault, ?hidden⟩
    case console =>
      rw [Trace.console_append]
      exact List.prefix_append _ _
    case lookups =>
      rw [Trace.lookups_append]
      exact List.prefix_append _ _
    case same =>
      intro hnot
      exact absurd hverdict hnot
    case verdict =>
      intro ok hok
      cases hbackup : j.backupFault? store.get operator with
      | some fault => simp [hbackup, settled] at hok
      | none => simpa [hbackup, settled] using hok
    case approval =>
      intro hok
      cases hok
    case fault =>
      intro fault hok
      cases hok
    case hidden =>
      intro fault _
      exact .inr ⟨rfl, Jenkins.exists_not_sound hsound⟩

end Gate

end

section

open scoped BuiltIn

/-- A job without an identifier hides that the credentials of the backup do not exist. -/
example :
    let j : Jenkins := ⟨"j", "ns", [⟨"", "", none, "", "", ""⟩], .amazonS3⟩
    ((⟨false, none⟩ : Gate).validate none (Secrets.store []) j).outcome = .ok false ∧
      ((⟨true, none⟩ : Gate).validate none (Secrets.store []) j).outcome =
        .error (.notFound ⟨"ns", "jenkins-operator-backup-credentials-j"⟩) := by
  decide +kernel

end

end JenkinsAdmission
