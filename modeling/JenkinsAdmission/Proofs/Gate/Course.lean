import JenkinsAdmission.Gate.Basic
import JenkinsAdmission.Proofs.Gate.Complaint
import JenkinsAdmission.Proofs.Outcome

/-!
# The course of validation

The checks of the gate are composed as runs. Here each of them is brought into **closed form**: its
outcome and its trace, computed from the answers of the store.

* `SeedJob.finding` is what the answers say about the deploy key of a job: a defect, no defect, or
  the **fault** that stands in the way of saying so.
* `SeedJob.check_eq` and `SeedJob.checkAll_eq` are the closed forms for one job and for several. A
  list of jobs is followed as far as `SeedJob.reached`: up to the first job with a fault.
* `Jenkins.checkBackup_eq` is the closed form for the backup.
* `Gate.validate_of_fault`, `Gate.validate_of_unsound` and `Gate.validate_of_backup` are the three
  courses that validation can take, and `Gate.validate_cases` says that it takes one of them.

All that later theorems say about verdicts, messages and lookups is read off these forms.
-/

namespace JenkinsAdmission

/-! ## Runs that are known already -/

namespace Run

variable {ε α β : Type}

/-- A run that is known to succeed hands its value on and keeps its trace in front. -/
@[simp] theorem mk_ok_bind (a : α) (t : Trace) (f : α → Run ε β) :
    (⟨.ok a, t⟩ : Run ε α) >>= f = ⟨(f a).outcome, t ++ (f a).trace⟩ :=
  bind_of_ok rfl f

/-- A run that is known to fail hands nothing on. -/
@[simp] theorem mk_error_bind (e : ε) (t : Trace) (f : α → Run ε β) :
    (⟨.error e, t⟩ : Run ε α) >>= f = ⟨.error e, t⟩ :=
  bind_of_error rfl f

@[simp] theorem map_mk (f : α → β) (o : Except ε α) (t : Trace) :
    f <$> (⟨o, t⟩ : Run ε α) = ⟨o.map f, t⟩ := by
  rw [map_eq_pure_bind]
  cases o with
  | ok a => rw [mk_ok_bind, outcome_pure, trace_pure, List.append_nil, Except.map_ok]
  | error e => rw [mk_error_bind, Except.map_error]

end Run

/-! ## Asking and complaining -/

/-- The answers of a store. -/
abbrev Answers := Coordinate → Except LookupFault SecretData

/-- The answer for a secret that may be missing. -/
def Answers.find? (answers : Answers) (c : Coordinate) : Except LookupFault (Option SecretData) :=
  match answers c with
  | .ok data => .ok (some data)
  | .error (.notFound _) => .ok none
  | .error fault => .error fault

/-- A check that ended with a fault or else with a verdict. -/
def settled (fault : Option LookupFault) (sound : Bool) : Except LookupFault Bool :=
  match fault with
  | some fault => .error fault
  | none => .ok sound

/-- A check settles for true only when there is no fault and nothing to complain about. -/
@[simp] theorem settled_eq_ok_true {fault : Option LookupFault} {sound : Bool} :
    settled fault sound = .ok true ↔ fault = none ∧ sound = true := by
  cases fault <;> simp [settled]

@[simp] theorem settled_eq_error {fault : Option LookupFault} {sound : Bool} {e : LookupFault} :
    settled fault sound = .error e ↔ fault = some e := by
  cases fault <;> simp [settled]

/-- A lookup is one entry of the trace and the answer of the store. -/
theorem Store.lookUp_eq (s : Store) (c : Coordinate) :
    s.lookUp c = ⟨s.get c, [.lookedUp s.source c]⟩ := by
  simp [Store.lookUp, Run.log, Run.ofExcept]

/-- So is a lookup that allows the secret to be missing. -/
theorem Store.lookUp?_eq (s : Store) (c : Coordinate) :
    s.lookUp? c = ⟨Answers.find? s.get c, [.lookedUp s.source c]⟩ := by
  simp only [Store.lookUp?, Run.log, Run.mk_ok_bind, Answers.find?]
  rcases s.get c with fault | data
  · cases fault <;> rfl
  · rfl

/-! ## Messages and lookups of traces -/

namespace Complaint

@[simp] theorem console_shown (complaints : List Complaint) :
    (shown complaints).console = complaints.map warning := by
  simp [shown, Trace.console, List.filterMap_map]

@[simp] theorem lookups_shown (complaints : List Complaint) : (shown complaints).lookups = [] := by
  simp [shown, Trace.lookups]

end Complaint

namespace Trace

theorem console_flatMap {α : Type} (l : List α) (f : α → Trace) :
    console (l.flatMap f) = l.flatMap fun a => console (f a) := by
  simp [console, List.filterMap_flatMap]

theorem lookups_flatMap {α : Type} (l : List α) (f : α → Trace) :
    lookups (l.flatMap f) = l.flatMap fun a => lookups (f a) := by
  simp [lookups, List.filterMap_flatMap]

@[simp] theorem console_asked (source : Source) (places : List Coordinate) :
    console (places.map (.lookedUp source)) = [] := by
  simp [console]

@[simp] theorem lookups_asked (source : Source) (places : List Coordinate) :
    lookups (places.map (.lookedUp source)) = places := by
  simp [lookups, List.filterMap_map]

end Trace

/-! ## One seed job -/

section

variable [Platform]

namespace SeedJob

/-- The secret of the deploy key of a job. -/
def secret? (ns : Text) (job : SeedJob) : Option Coordinate :=
  job.privateKey.map fun ref => ⟨ns, ref.name⟩

/-- What the answers of a store say about the deploy key of a job. -/
def finding (answers : Answers) (ns : Text) (job : SeedJob) :
    Except LookupFault (Option SeedJobDefect) :=
  match job.privateKey with
  | none => .ok none
  | some ref =>
    match answers.find? ⟨ns, ref.name⟩ with
    | .ok answer => (keyDefect? ⟨ns, ref.name⟩ ref answer).mapError .broken
    | .error fault => .error fault

/-- The fault that ends the check of a job. -/
def fault? (answers : Answers) (ns : Text) (job : SeedJob) : Option LookupFault :=
  match job.finding answers ns with
  | .ok _ => none
  | .error fault => some fault

/-- The defects of the deploy key of a job. -/
def keyDefects (answers : Answers) (ns : Text) (job : SeedJob) : List SeedJobDefect :=
  match job.finding answers ns with
  | .ok defect => defect.toList
  | .error _ => []

/-- Whether a job has no defect. -/
def isSound (answers : Answers) (ns : Text) (job : SeedJob) : Bool :=
  job.ownDefects.isEmpty && (job.keyDefects answers ns).isEmpty

/-- What the check of a job does. -/
def steps (store : Store) (ns : Text) (job : SeedJob) : Trace :=
  Complaint.shown (job.ownDefects.map (.seedJob job))
    ++ (job.secret? ns).toList.map (.lookedUp store.source)
    ++ Complaint.shown ((job.keyDefects store.get ns).map (.seedJob job))

theorem finding_of_none {job : SeedJob} (h : job.privateKey = none) (answers : Answers)
    (ns : Text) : job.finding answers ns = .ok none := by
  simp only [finding, h]

/-- The finding on a key comes from the one answer that is asked for. -/
theorem finding_of_some {job : SeedJob} {ref : SecretKeyRef} (h : job.privateKey = some ref)
    (answers : Answers) (ns : Text) :
    job.finding answers ns = answers.find? ⟨ns, ref.name⟩ >>= fun answer =>
      (keyDefect? ⟨ns, ref.name⟩ ref answer).mapError .broken := by
  simp only [finding, h]
  cases answers.find? ⟨ns, ref.name⟩ <;> rfl

/-- The check of a deploy key in closed form. -/
theorem checkKey_eq {job : SeedJob} {ref : SecretKeyRef} (h : job.privateKey = some ref)
    (store : Store) (ns : Text) :
    job.checkKey store ⟨ns, ref.name⟩ ref =
      ⟨settled (job.fault? store.get ns) (job.keyDefects store.get ns).isEmpty,
        .lookedUp store.source ⟨ns, ref.name⟩
          :: Complaint.shown ((job.keyDefects store.get ns).map (.seedJob job))⟩ := by
  rw [checkKey, Store.lookUp?_eq, fault?, keyDefects, finding_of_some h]
  cases Answers.find? store.get ⟨ns, ref.name⟩ with
  | error fault => rfl
  | ok answer =>
    simp only [Run.mk_ok_bind, Except.ok_bind, Run.ofExcept]
    cases hdefect : keyDefect? ⟨ns, ref.name⟩ ref answer with
    | error cause => rfl
    | ok defect =>
      simp only [Except.mapError_ok, Run.mk_ok_bind, complain_keyDefect? hdefect]
      cases defect <;> rfl

/-- The check of a job in closed form. -/
theorem check_eq (job : SeedJob) (store : Store) (ns : Text) :
    job.check store ns =
      ⟨settled (job.fault? store.get ns) (job.isSound store.get ns), job.steps store ns⟩ := by
  rw [check, complain_ownDefects, Run.mk_ok_bind]
  cases hkey : job.privateKey with
  | none =>
    simp [isSound, fault?, keyDefects, steps, secret?, finding_of_none hkey, hkey, settled,
      Complaint.shown]
  | some ref =>
    simp only [checkKey_eq hkey]
    cases job.fault? store.get ns with
    | some fault => simp [steps, secret?, hkey, settled]
    | none => simp [steps, secret?, hkey, settled, isSound]

/-! ## Several seed jobs -/

/-- The jobs that are checked: all of them up to the first one with a fault. -/
def reached (answers : Answers) (ns : Text) : List SeedJob → List SeedJob
  | [] => []
  | job :: rest =>
    if (job.fault? answers ns).isSome then [job] else job :: reached answers ns rest

/-- Jobs without faults are all reached. -/
theorem reached_eq_self {answers : Answers} {ns : Text} {jobs : List SeedJob}
    (h : ∀ job ∈ jobs, job.fault? answers ns = none) : reached answers ns jobs = jobs := by
  induction jobs with
  | nil => rfl
  | cons job rest ih =>
    rw [reached, h job (List.mem_cons_self ..), ih fun b hb => h b (List.mem_cons_of_mem _ hb)]
    rfl

/-- Nothing is reached behind the first fault. -/
theorem reached_append {answers : Answers} {ns : Text} {before : List SeedJob} {job : SeedJob}
    (hbefore : ∀ b ∈ before, b.fault? answers ns = none)
    (hjob : (job.fault? answers ns).isSome) (after : List SeedJob) :
    reached answers ns (before ++ job :: after) = before ++ [job] := by
  induction before with
  | nil => rw [List.nil_append, reached, if_pos hjob, List.nil_append]
  | cons b rest ih =>
    rw [List.cons_append, reached, hbefore b (List.mem_cons_self ..),
      ih fun c hc => hbefore c (List.mem_cons_of_mem _ hc)]
    rfl

/-- The check of several jobs in closed form. -/
theorem checkAll_eq (store : Store) (ns : Text) (jobs : List SeedJob) :
    checkAll store ns jobs =
      ⟨settled (jobs.findSome? (fault? store.get ns)) (jobs.all (isSound store.get ns)),
        (reached store.get ns jobs).flatMap (steps store ns)⟩ := by
  induction jobs with
  | nil => rfl
  | cons job rest ih =>
    rw [checkAll, check_eq, ih, List.findSome?_cons, reached]
    -- a fault of this job hides those of the rest, and their verdicts
    cases job.fault? store.get ns with
    | some fault => simp [settled]
    | none =>
      cases rest.findSome? (fault? store.get ns) with
      | some fault => simp [settled]
      | none => simp [settled]

end SeedJob

/-! ## The backup -/

namespace Jenkins

/-- The secret of the backup credentials, if the backup mode takes any. -/
def backupSecret? (operator : Text) (j : Jenkins) : Option Coordinate :=
  match j.backup with
  | .noBackup => none
  | .amazonS3 => some (j.secret (backupSecretName operator j.name))

/-- The fault that ends the check of the backup. -/
def backupFault? (answers : Answers) (operator : Text) (j : Jenkins) : Option LookupFault :=
  match j.backupSecret? operator with
  | none => none
  | some c =>
    match answers c with
    | .ok _ => none
    | .error fault => some fault

/-- The keys of the backup credentials under which there is no value. -/
def backupGaps (answers : Answers) (operator : Text) (j : Jenkins) : List Text :=
  match j.backupSecret? operator with
  | none => []
  | some c =>
    match answers c with
    | .ok data => data.missingCredentials
    | .error _ => []

/-- What the check of the backup does. -/
def backupSteps (store : Store) (operator : Text) (j : Jenkins) : Trace :=
  (j.backupSecret? operator).toList.map (.lookedUp store.source)
    ++ Complaint.shown
      ((j.backupGaps store.get operator).map (.credential (backupSecretName operator j.name)))

/-- The check of the backup in closed form. -/
theorem checkBackup_eq (j : Jenkins) (store : Store) (operator : Text) :
    j.checkBackup store operator =
      ⟨settled (j.backupFault? store.get operator) (j.backupGaps store.get operator).isEmpty,
        j.backupSteps store operator⟩ := by
  unfold checkBackup backupSteps backupFault? backupGaps backupSecret?
  cases j.backup with
  | noBackup => rfl
  | amazonS3 =>
    simp only [checkCredentials, Store.lookUp_eq]
    cases store.get (j.secret (backupSecretName operator j.name)) with
    | error fault => rfl
    | ok data => simp [complain_credentials, settled]

/-! ## The seed jobs of a resource -/

/-- The fault that ends the check of the seed jobs. -/
def seedJobFault? (answers : Answers) (j : Jenkins) : Option LookupFault :=
  j.seedJobs.findSome? (SeedJob.fault? answers j.ns)

/-- Whether no seed job has a defect. -/
def seedJobsSound (answers : Answers) (j : Jenkins) : Bool :=
  j.seedJobs.all (SeedJob.isSound answers j.ns)

/-- What the check of the seed jobs does. -/
def seedJobSteps (store : Store) (j : Jenkins) : Trace :=
  (SeedJob.reached store.get j.ns j.seedJobs).flatMap (SeedJob.steps store j.ns)

/-- The check of the seed jobs in three parts: its fault, its verdict, and its steps. -/
theorem checkSeedJobs_eq (j : Jenkins) (store : Store) :
    j.checkSeedJobs store =
      ⟨settled (j.seedJobFault? store.get) (j.seedJobsSound store.get), j.seedJobSteps store⟩ :=
  SeedJob.checkAll_eq store j.ns j.seedJobs

end Jenkins

/-! ## The gate -/

namespace Gate

variable (g : Gate) (environment : Option Text) {store : Store} {j : Jenkins}

/-- A fault of a seed job ends validation. -/
theorem validate_of_fault {fault : LookupFault} (h : j.seedJobFault? store.get = some fault) :
    g.validate environment store j = ⟨.error fault, j.seedJobSteps store⟩ := by
  rw [validate, Jenkins.checkSeedJobs_eq, h, settled, Run.mk_error_bind]

/-- After a seed job that is not sound the backup is left out. -/
theorem validate_of_unsound (h : j.seedJobFault? store.get = none)
    (hsound : j.seedJobsSound store.get = false) (hfull : g.fullDiagnostics = false) :
    g.validate environment store j = ⟨.ok false, j.seedJobSteps store⟩ := by
  rw [validate, Jenkins.checkSeedJobs_eq, h, settled, Run.mk_ok_bind, hsound, hfull]
  simp

/-- The backup is checked after sound seed jobs, and for full diagnostics in any case. -/
theorem validate_of_backup (h : j.seedJobFault? store.get = none)
    (hcheck : j.seedJobsSound store.get = true ∨ g.fullDiagnostics = true) :
    g.validate environment store j =
      ⟨settled (j.backupFault? store.get (g.operator environment))
          (j.seedJobsSound store.get && (j.backupGaps store.get (g.operator environment)).isEmpty),
        j.seedJobSteps store ++ j.backupSteps store (g.operator environment)⟩ := by
  have hskip : (!j.seedJobsSound store.get && !g.fullDiagnostics) = false := by
    rw [← Bool.not_or, (Bool.or_eq_true ..).mpr hcheck, Bool.not_true]
  rw [validate, Jenkins.checkSeedJobs_eq, h, settled, Run.mk_ok_bind, hskip,
    Jenkins.checkBackup_eq]
  cases j.backupFault? store.get (g.operator environment) with
  | some fault => simp [settled]
  | none => simp [settled]

/-- One of the three is the course that validation takes. -/
theorem validate_cases (store : Store) (j : Jenkins) :
    (∃ fault, j.seedJobFault? store.get = some fault ∧
        g.validate environment store j = ⟨.error fault, j.seedJobSteps store⟩) ∨
      (j.seedJobFault? store.get = none ∧
        (j.seedJobsSound store.get = true ∨ g.fullDiagnostics = true) ∧
        g.validate environment store j =
          ⟨settled (j.backupFault? store.get (g.operator environment))
              (j.seedJobsSound store.get &&
                (j.backupGaps store.get (g.operator environment)).isEmpty),
            j.seedJobSteps store ++ j.backupSteps store (g.operator environment)⟩) ∨
      (j.seedJobFault? store.get = none ∧ j.seedJobsSound store.get = false ∧
        g.fullDiagnostics = false ∧
        g.validate environment store j = ⟨.ok false, j.seedJobSteps store⟩) := by
  cases hfault : j.seedJobFault? store.get with
  | some fault => exact .inl ⟨fault, rfl, validate_of_fault g environment hfault⟩
  | none =>
    by_cases hcheck : j.seedJobsSound store.get = true ∨ g.fullDiagnostics = true
    · exact .inr (.inl ⟨rfl, hcheck, validate_of_backup g environment hfault hcheck⟩)
    · rw [not_or, Bool.not_eq_true, Bool.not_eq_true] at hcheck
      obtain ⟨hsound, hfull⟩ := hcheck
      exact .inr (.inr ⟨rfl, hsound, hfull, validate_of_unsound g environment hfault hsound hfull⟩)

end Gate

/-! ## Messages and lookups of validation

Neither depends on anything but the answers of the store. -/

/-- A seed job shows its complaints, those about its fields first. -/
@[simp] theorem SeedJob.console_steps (store : Store) (ns : Text) (job : SeedJob) :
    (job.steps store ns).console =
      (job.ownDefects ++ job.keyDefects store.get ns).map fun d =>
        (Complaint.seedJob job d).warning := by
  simp [steps, Function.comp_def]

@[simp] theorem SeedJob.lookups_steps (store : Store) (ns : Text) (job : SeedJob) :
    (job.steps store ns).lookups = (job.secret? ns).toList := by
  simp [steps]

namespace Jenkins

@[simp] theorem console_seedJobSteps (store : Store) (j : Jenkins) :
    (j.seedJobSteps store).console =
      (SeedJob.reached store.get j.ns j.seedJobs).flatMap fun job =>
        (job.ownDefects ++ job.keyDefects store.get j.ns).map fun d =>
          (Complaint.seedJob job d).warning := by
  simp only [seedJobSteps, Trace.console_flatMap, SeedJob.console_steps]

/-- The seed jobs that are reached look their secrets up in order. -/
@[simp] theorem lookups_seedJobSteps (store : Store) (j : Jenkins) :
    (j.seedJobSteps store).lookups =
      (SeedJob.reached store.get j.ns j.seedJobs).filterMap (SeedJob.secret? j.ns) := by
  simp only [seedJobSteps, Trace.lookups_flatMap, SeedJob.lookups_steps]
  exact (List.filterMap_eq_flatMap_toList ..).symm

end Jenkins

end

namespace Jenkins

/-- The backup shows one warning for each credential that is missing. -/
@[simp] theorem console_backupSteps (store : Store) (operator : Text) (j : Jenkins) :
    (j.backupSteps store operator).console = (j.backupGaps store.get operator).map fun key =>
      (Complaint.credential (backupSecretName operator j.name) key).warning := by
  simp [backupSteps, Function.comp_def]

@[simp] theorem lookups_backupSteps (store : Store) (operator : Text) (j : Jenkins) :
    (j.backupSteps store operator).lookups = (j.backupSecret? operator).toList := by
  simp [backupSteps]

end Jenkins

end JenkinsAdmission
