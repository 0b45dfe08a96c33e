import JenkinsAdmission.BuiltIn
import JenkinsAdmission.Proofs.Gate.Lookups

/-!
# The order of the seed jobs

Seed jobs are checked one after the other, and the first fault ends their check. So the order of the
jobs shows in the trace. What does it decide of the outcome?

* `Jenkins.SameCheck` relates two checks of seed jobs: both end with a fault, or both come to the
  same verdict, over the same lookups and messages in whatever order.
* `Gate.Reordered` relates the runs of validation for two orders: they have the same verdict, or
  both end with a fault. It is the same fault unless some lookup of a deploy key has one.
* `Gate.validate_reordered` says that both hold for every reordering.

What is left to the order is the choice among the faults of lookups. The breakdowns of deploy keys
offer no choice, because `cause_of_keyDefect?` leaves a single cause for them.
-/

namespace JenkinsAdmission

section

variable [Platform]

/-! ## Two orders of the same jobs -/

/-- Two checks of seed jobs with the same verdict and, up to their order, the same lookups and
messages, or else both with a fault. -/
structure Jenkins.SameCheck (r s : Run LookupFault Bool) : Prop where
  /-- both end with a fault, or none of them -/
  fault_iff : (∃ fault, r.outcome = .error fault) ↔ ∃ fault, s.outcome = .error fault
  /-- the verdicts are the same -/
  verdict_iff : ∀ sound, r.outcome = .ok sound ↔ s.outcome = .ok sound
  /-- the lookups before a verdict are the same up to their order -/
  lookups : ∀ sound, s.outcome = .ok sound → r.trace.lookups.Perm s.trace.lookups
  /-- the messages before a verdict are the same up to their order -/
  console : ∀ sound, s.outcome = .ok sound → r.trace.console.Perm s.trace.console

/-- Two validations with the same kind of outcome, over the answers of a store about a resource. -/
structure Gate.Reordered (answers : Answers) (j : Jenkins) (r s : Run LookupFault Bool) : Prop where
  /-- the verdicts are the same -/
  verdict_iff : ∀ ok, r.outcome = .ok ok ↔ s.outcome = .ok ok
  /-- both end with a fault, or none of them -/
  fault_iff : (∃ fault, r.outcome = .error fault) ↔ ∃ fault, s.outcome = .error fault
  /-- the faults are the same unless the lookup of some deploy key has one -/
  same_fault : (∀ job ∈ j.seedJobs, job.lookupFault? answers j.ns = none) →
    ∀ fault, r.outcome = .error fault ↔ s.outcome = .error fault

/-! ## Causes of a breakdown -/

/-- A deploy key breaks down for one cause only. -/
theorem cause_of_keyDefect? {material : Bytes} {cause : Breakdown}
    (h : keyDefect? material = .error cause) : cause = .impossibleKey := by
  unfold keyDefect? contentDefect? at h
  split at h
  · cases h
  · split at h
    · split at h <;> cases h
      rfl
    · cases h

namespace SeedJob

variable {answers : Answers} {ns : Text} {job : SeedJob} {jobs jobs' : List SeedJob}

/-- A key breaks down for one reason only. -/
theorem cause_of_keyBreakdown? {cause : Breakdown}
    (h : job.keyBreakdown? answers ns = some cause) : cause = .impossibleKey := by
  unfold keyBreakdown? at h
  split at h
  · cases h
  · split at h
    · cases h
    · split at h <;> cases h
      exact cause_of_keyDefect? ‹_›

/-- Without a fault of its lookup, a job can end with one fault only. -/
theorem fault_of_lookupFault?_eq_none {fault : LookupFault}
    (hlookup : job.lookupFault? answers ns = none) (h : job.fault? answers ns = some fault) :
    fault = .broken .impossibleKey := by
  rw [fault?_eq, hlookup, Option.none_or] at h
  obtain ⟨cause, hcause, rfl⟩ := Option.map_eq_some_iff.mp h
  rw [cause_of_keyBreakdown? hcause]

/-! ## Lists of jobs -/

/-- Whether some job is at fault does not depend on the order. -/
theorem findSome?_fault?_eq_none_iff (h : jobs.Perm jobs') :
    jobs.findSome? (fault? answers ns) = none ↔ jobs'.findSome? (fault? answers ns) = none := by
  simp only [List.findSome?_eq_none_iff, h.mem_iff]

/-- If one order has a fault, so has every other, though it may be another fault. -/
theorem exists_findSome?_fault? (h : jobs.Perm jobs') {fault : LookupFault}
    (hfault : jobs'.findSome? (fault? answers ns) = some fault) :
    ∃ fault', jobs.findSome? (fault? answers ns) = some fault' := by
  refine Option.ne_none_iff_exists'.mp fun hnone => ?_
  rw [(findSome?_fault?_eq_none_iff h).mp hnone] at hfault
  cases hfault

/-- Where all lookups succeed, there is only one fault to meet. -/
theorem eq_of_findSome?_fault? {fault : LookupFault}
    (hlookups : ∀ job ∈ jobs, job.lookupFault? answers ns = none)
    (hfault : jobs.findSome? (fault? answers ns) = some fault) :
    fault = .broken .impossibleKey := by
  obtain ⟨job, hjob, hfault⟩ := List.exists_of_findSome?_eq_some hfault
  exact fault_of_lookupFault?_eq_none (hlookups job hjob) hfault

/-- Without a fault of a lookup, all orders have the same first fault. -/
theorem findSome?_fault?_perm (h : jobs.Perm jobs')
    (hlookups : ∀ job ∈ jobs', job.lookupFault? answers ns = none) :
    jobs.findSome? (fault? answers ns) = jobs'.findSome? (fault? answers ns) := by
  cases hfirst : jobs'.findSome? (fault? answers ns) with
  | none => exact (findSome?_fault?_eq_none_iff h).mpr hfirst
  | some fault =>
    obtain ⟨fault', hfirst'⟩ := exists_findSome?_fault? h hfirst
    have hlookups' : ∀ job ∈ jobs, job.lookupFault? answers ns = none :=
      fun job hjob => hlookups job (h.mem_iff.mp hjob)
    rw [hfirst', eq_of_findSome?_fault? hlookups' hfirst', eq_of_findSome?_fault? hlookups hfirst]

end SeedJob

/-! ## The seed jobs of a resource -/

namespace Jenkins

variable {store : Store} {j : Jenkins} {jobs : List SeedJob}

/-- A resource with other seed jobs. -/
def withSeedJobs (j : Jenkins) (jobs : List SeedJob) : Jenkins :=
  { j with seedJobs := jobs }

theorem seedJobFault?_eq_none_iff (h : jobs.Perm j.seedJobs) :
    (j.withSeedJobs jobs).seedJobFault? store.get = none ↔ j.seedJobFault? store.get = none :=
  SeedJob.findSome?_fault?_eq_none_iff h

theorem exists_seedJobFault? (h : jobs.Perm j.seedJobs) {fault : LookupFault}
    (hfault : j.seedJobFault? store.get = some fault) :
    ∃ fault', (j.withSeedJobs jobs).seedJobFault? store.get = some fault' :=
  SeedJob.exists_findSome?_fault? h hfault

/-- Whether the seed jobs are sound does not depend on the order. -/
theorem seedJobsSound_withSeedJobs (h : jobs.Perm j.seedJobs) :
    (j.withSeedJobs jobs).seedJobsSound store.get = j.seedJobsSound store.get :=
  h.all_eq

/-- What is done for jobs without a fault is done for each of them. -/
theorem seedJobSteps_of_no_fault (h : j.seedJobFault? store.get = none) :
    j.seedJobSteps store = j.seedJobs.flatMap (SeedJob.steps store j.ns) := by
  rw [seedJobSteps, SeedJob.reached_eq_self (List.findSome?_eq_none_iff.mp h)]

/-- The steps of a check without faults are the same ones in another order. -/
theorem seedJobSteps_perm (h : jobs.Perm j.seedJobs) (hfault : j.seedJobFault? store.get = none) :
    ((j.withSeedJobs jobs).seedJobSteps store).Perm (j.seedJobSteps store) := by
  rw [seedJobSteps_of_no_fault hfault,
    seedJobSteps_of_no_fault ((seedJobFault?_eq_none_iff h).mpr hfault)]
  exact h.flatMap_right _

/-- The check of reordered seed jobs is the same check. -/
theorem checkSeedJobs_sameCheck (store : Store) (h : jobs.Perm j.seedJobs) :
    SameCheck ((j.withSeedJobs jobs).checkSeedJobs store) (j.checkSeedJobs store) := by
  rw [checkSeedJobs_eq, checkSeedJobs_eq, seedJobsSound_withSeedJobs h]
  cases hfault : j.seedJobFault? store.get with
  | none =>
    rw [(seedJobFault?_eq_none_iff h).mpr hfault]
    have hsteps := seedJobSteps_perm h hfault
    exact ⟨Iff.rfl, fun _ => Iff.rfl, fun _ _ => hsteps.filterMap _,
      fun _ _ => hsteps.filterMap _⟩
  | some fault =>
    obtain ⟨fault', hfault'⟩ := exists_seedJobFault? h hfault
    rw [hfault']
    exact ⟨by simp [settled], fun _ => by simp [settled], nofun, nofun⟩

end Jenkins

/-! ## Validation -/

namespace Gate

variable (g : Gate) (environment : Option Text) {store : Store} {j : Jenkins}
  {jobs : List SeedJob}

/-- The outcome of validation depends on the seed jobs through their fault and their verdict. -/
theorem outcome_validate (store : Store) (j : Jenkins) :
    (g.validate environment store j).outcome =
      match j.seedJobFault? store.get with
      | some fault => .error fault
      | none =>
        if j.seedJobsSound store.get || g.fullDiagnostics then
          settled (j.backupFault? store.get (g.operator environment))
            (j.seedJobsSound store.get &&
              (j.backupGaps store.get (g.operator environment)).isEmpty)
        else .ok false := by
  rcases validate_cases g environment store j with
    ⟨fault, hfault, hrun⟩ | ⟨hfault, hcheck, hrun⟩ | ⟨hfault, hsound, hfull, hrun⟩
  · rw [hrun, hfault]
  · simp only [hrun, hfault]
    rw [if_pos ((Bool.or_eq_true ..).mpr hcheck)]
  · simp only [hrun, hfault, hsound, hfull, Bool.or_false, Bool.false_eq_true, if_false]

/-- With the same fault of the seed jobs, two orders have the same outcome. -/
theorem outcome_validate_withSeedJobs (h : jobs.Perm j.seedJobs)
    (hfault : (j.withSeedJobs jobs).seedJobFault? store.get = j.seedJobFault? store.get) :
    (g.validate environment store (j.withSeedJobs jobs)).outcome =
      (g.validate environment store j).outcome := by
  rw [outcome_validate, outcome_validate, hfault, Jenkins.seedJobsSound_withSeedJobs h]
  rfl

/-- **The order of the seed jobs does not decide the outcome.** In every order their check ends with
a fault or comes to the same verdict, over the same lookups and messages, and validation has the
same kind of outcome. Only the choice among the faults of lookups is left to the order. -/
theorem validate_reordered (store : Store) (j : Jenkins) {jobs : List SeedJob}
    (h : jobs.Perm j.seedJobs) :
    Jenkins.SameCheck ((j.withSeedJobs jobs).checkSeedJobs store) (j.checkSeedJobs store) ∧
      Reordered store.get j (g.validate environment store (j.withSeedJobs jobs))
        (g.validate environment store j) := by
  refine ⟨Jenkins.checkSeedJobs_sameCheck store h, ?_⟩
  have hsame : (∀ job ∈ j.seedJobs, job.lookupFault? store.get j.ns = none) →
      ∀ fault, (g.validate environment store (j.withSeedJobs jobs)).outcome = .error fault ↔
        (g.validate environment store j).outcome = .error fault := by
    intro hlookups fault
    rw [outcome_validate_withSeedJobs g environment h (SeedJob.findSome?_fault?_perm h hlookups)]
  -- without a fault every job is looked at in either order
  cases hfault : j.seedJobFault? store.get with
  | none =>
    have houtcome := outcome_validate_withSeedJobs g environment h
      (((Jenkins.seedJobFault?_eq_none_iff h).mpr hfault).trans hfault.symm)
    exact ⟨fun ok => by rw [houtcome], by rw [houtcome], hsame⟩
  | some fault =>
    -- another order may meet another fault, but it meets one
    obtain ⟨fault', hfault'⟩ := Jenkins.exists_seedJobFault? h hfault
    have hrun := validate_of_fault g environment hfault
    have hrun' := validate_of_fault g environment hfault'
    refine ⟨fun ok => ?_, ?_, hsame⟩
    · simp [hrun, hrun']
    · simp [hrun, hrun']

end Gate

end

namespace Gate

open scoped BuiltIn

/-- Two unsound seed jobs in either order come before the credentials of the backup, which are
missing. -/
theorem validate_swapped :
    let j : Jenkins :=
      ⟨"j", "ns", [⟨"a", "", some ⟨"k", "key"⟩, "", "", ""⟩, ⟨"", "git@h:r", none, "", "", ""⟩],
        .amazonS3⟩
    let fault : LookupFault := .notFound ⟨"ns", "jenkins-operator-backup-credentials-j"⟩
    let store := Secrets.store []
    j.seedJobs.reverse.Perm j.seedJobs ∧
      (∀ job ∈ j.seedJobs, job.lookupFault? store.get j.ns = none) ∧
      ((⟨true, none⟩ : Gate).validate none store j).outcome = .error fault ∧
      ((⟨true, none⟩ : Gate).validate none store (j.withSeedJobs j.seedJobs.reverse)).outcome =
        .error fault := by
  intro j fault store
  have hlookups : ∀ job ∈ j.seedJobs, job.lookupFault? store.get j.ns = none := by decide
  have houtcome : ((⟨true, none⟩ : Gate).validate none store j).outcome = .error fault := by
    decide +kernel
  have hreordered :=
    (validate_reordered ⟨true, none⟩ none store j j.seedJobs.reverse_perm).2
  exact ⟨j.seedJobs.reverse_perm, hlookups, houtcome,
    (hreordered.same_fault hlookups fault).mpr houtcome⟩

/-- Of two lookups with a fault, the one of the first job ends validation. -/
example :
    let a : SeedJob := ⟨"a", "", some ⟨"k", "key"⟩, "", "", ""⟩
    let b : SeedJob := ⟨"b", "", some ⟨"l", "key"⟩, "", "", ""⟩
    let store := (Secrets.store []).withFaults [(⟨"ns", "k"⟩, "first"), (⟨"ns", "l"⟩, "second")]
    ((⟨false, none⟩ : Gate).validate none store ⟨"j", "ns", [a, b], .noBackup⟩).outcome =
        .error (.reported "first") ∧
      ((⟨false, none⟩ : Gate).validate none store ⟨"j", "ns", [b, a], .noBackup⟩).outcome =
        .error (.reported "second") := by
  decide +kernel

end Gate

end JenkinsAdmission
