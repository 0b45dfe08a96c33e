import JenkinsAdmission.BuiltIn
import JenkinsAdmission.Proofs.Gate.Lookups
import Mathlib.Data.List.Forall2

/-!
# The warnings of validation

What does validation say about a resource? The answer is given here in words, from the resource and
the answers of the store alone: what is **due** to be shown about a seed job, about its deploy key,
and about the credentials of the backup.

* `SeedJob.Due` are the warnings about one job: those about its own fields, and after them at most
  one about its deploy key.
* `Gate.CredentialsDue` are the warnings about the backup, if it is its turn.
* `Gate.Tells` says that a run shows what is due, in order and nothing else, and that a verdict is
  `true` if and only if nothing was shown.
* `Gate.validate_tells` says that validation is such a run.

A job whose check comes to no end is due the warnings about its own fields only, and so is no job
after it.
-/

namespace JenkinsAdmission

section

variable [Platform]

/-! ## What is due to be shown -/

/-- Words about a seed job, which is called by its identifier. -/
def SeedJob.remark (job : SeedJob) (words : Text) : Display :=
  .message .warning
    ("Seed job " ++ Markup.highlight (if job.id = [] then "<no id>" else job.id) ++ ": " ++ words)

/-- Words about credentials without a value under a key. -/
def credentialRemark (secretName key : Text) : Display :=
  .message .warning
    ("Secret " ++ Markup.highlight secretName ++ " doesn't contain key: " ++ Markup.highlight key)

/-- The words that are due about the fields of a seed job. -/
def SeedJob.fieldWords (job : SeedJob) : List Text :=
  (if job.id = [] then ["seed job id can't be empty"] else [])
    ++ (if isSshUrl job.repositoryUrl = true ∧ job.privateKey = none then
      ["private key can't be empty while using ssh repository url"] else [])

/-- The words that are due about a deploy key: none, or the one thing that is wrong with it. -/
inductive SecretKeyRef.WordsDue (answers : Answers) (ns : Text) (ref : SecretKeyRef) :
    List Text → Prop
  /-- the secret does not exist -/
  | missing (c : Coordinate) (hanswer : answers ⟨ns, ref.name⟩ = .error (.notFound c)) :
    WordsDue answers ns ref
      ["secret " ++ Markup.highlight (ns ++ "/" ++ ref.name) ++ " not found"]
  /-- the value is missing or empty -/
  | empty (data : SecretData) (hanswer : answers ⟨ns, ref.name⟩ = .ok data)
    (hvalue : data.get? ref.key = none ∨ data.get? ref.key = some []) :
    WordsDue answers ns ref
      ["private key " ++ Markup.highlight ref.key ++ " in secret " ++ Markup.highlight ref.name
        ++ " is empty"]
  /-- the value is refused as a key -/
  | refused (data : SecretData) (material : Bytes) (defect : KeyDefect)
    (hanswer : answers ⟨ns, ref.name⟩ = .ok data) (hvalue : data.get? ref.key = some material)
    (hne : material ≠ []) (hdefect : keyDefect? material = .ok (some defect)) :
    WordsDue answers ns ref
      ["private key is invalid (" ++ defect.failure.name ++ "): " ++ defect.reason]
  /-- the value is accepted as a key -/
  | accepted (data : SecretData) (material : Bytes)
    (hanswer : answers ⟨ns, ref.name⟩ = .ok data) (hvalue : data.get? ref.key = some material)
    (hne : material ≠ []) (hdefect : keyDefect? material = .ok none) :
    WordsDue answers ns ref []

/-- The warnings that are due about a seed job. -/
inductive SeedJob.Due (answers : Answers) (ns : Text) (job : SeedJob) : List Display → Prop
  /-- it names no deploy key -/
  | keyless (hkey : job.privateKey = none) : Due answers ns job (job.fieldWords.map job.remark)
  /-- it names a deploy key -/
  | keyed (ref : SecretKeyRef) (words : List Text) (hkey : job.privateKey = some ref)
    (hwords : ref.WordsDue answers ns words) :
    Due answers ns job ((job.fieldWords ++ words).map job.remark)

/-- The keys of backup credentials under which a value is missing or empty, in order. -/
structure SecretData.Lacks (data : SecretData) (keys : List Text) : Prop where
  /-- the secret key comes before the access key -/
  ordered : keys.Sublist ["secret-key", "access-key"]
  /-- a key is listed if and only if its value is missing or empty -/
  mem_iff : ∀ key ∈ [("secret-key" : Text), "access-key"],
    key ∈ keys ↔ data.get? key = none ∨ data.get? key = some []

namespace Gate

/-- The backup is checked, and takes credentials. -/
def ReachesCredentials (g : Gate) (store : Store) (j : Jenkins) : Prop :=
  j.backup = .amazonS3 ∧ ((j.checkSeedJobs store).outcome = .ok true ∨ g.fullDiagnostics = true)

/-- The warnings that are due about the backup of a resource. -/
inductive CredentialsDue (g : Gate) (environment : Option Text) (store : Store) (j : Jenkins) :
    List Display → Prop
  /-- the backup is not checked, or takes no credentials -/
  | skipped (hskipped : ¬g.ReachesCredentials store j) : CredentialsDue g environment store j []
  /-- the credentials are there -/
  | checked (data : SecretData) (keys : List Text) (hreached : g.ReachesCredentials store j)
    (hanswer : store.get (g.credentials environment j) = .ok data) (hkeys : data.Lacks keys) :
    CredentialsDue g environment store j
      (keys.map (credentialRemark (g.credentials environment j).name))

/-- A run shows what is due about a resource. -/
structure Tells (g : Gate) (environment : Option Text) (store : Store) (j : Jenkins)
    (r : Run LookupFault Bool) : Prop where
  /-- a verdict is `true` if and only if nothing is shown -/
  silent_iff : ∀ ok, r.outcome = .ok ok → (ok = true ↔ r.trace.console = [])
  /-- everything that is shown is a warning -/
  warnings : ∀ d ∈ r.trace.console, ∃ body, d = .message .warning body
  /-- before a verdict, every job is told about, and then the backup -/
  complete : ∀ ok, r.outcome = .ok ok → ∃ told credentials,
    List.Forall₂ (SeedJob.Due store.get j.ns) j.seedJobs told ∧
      g.CredentialsDue environment store j credentials ∧
      r.trace.console = told.flatten ++ credentials
  /-- before a fault of a seed job, the earlier jobs are told about, and the fields of that job -/
  aborted : ∀ fault, (j.checkSeedJobs store).outcome = .error fault →
    r.outcome = .error fault ∧ ∃ before job after told, j.seedJobs = before ++ job :: after ∧
      (job.lookupFault? store.get j.ns = some fault ∨
        ∃ cause, job.keyBreakdown? store.get j.ns = some cause ∧ fault = .broken cause) ∧
      List.Forall₂ (SeedJob.Due store.get j.ns) before told ∧
      r.trace.console = told.flatten ++ job.fieldWords.map job.remark

end Gate

/-! ## Complaints are what is due -/

namespace SeedJob

variable {answers : Answers} {ns : Text} {job : SeedJob}

/-- What is shown about a job that is checked. -/
def shown (answers : Answers) (ns : Text) (job : SeedJob) : List Display :=
  (job.ownDefects ++ job.keyDefects answers ns).map fun d => (Complaint.seedJob job d).warning

omit [Platform] in
theorem warning_seedJob (job : SeedJob) (defect : SeedJobDefect) :
    (Complaint.seedJob job defect).warning = job.remark defect.message := by
  simp only [Complaint.warning, Complaint.text, label, remark, List.isEmpty_iff]

omit [Platform] in
/-- The words about the fields are those of the defects that the model lists. -/
theorem fieldWords_eq (job : SeedJob) :
    job.fieldWords = job.ownDefects.map SeedJobDefect.message := by
  unfold fieldWords ownDefects
  cases job.id <;> cases job.privateKey <;> cases isSshUrl job.repositoryUrl <;> rfl

/-- What is due for a seed job, with the words about its fields first. -/
theorem shown_eq (answers : Answers) (ns : Text) (job : SeedJob) :
    job.shown answers ns =
      (job.fieldWords ++ (job.keyDefects answers ns).map SeedJobDefect.message).map job.remark := by
  rw [shown, fieldWords_eq, ← List.map_append, List.map_map]
  exact List.map_congr_left fun defect _ => warning_seedJob job defect

/-- What is found about a deploy key is what is due about it. -/
theorem wordsDue_of_finding {ref : SecretKeyRef} {defect : Option SeedJobDefect}
    (hkey : job.privateKey = some ref) (hfinding : job.finding answers ns = .ok defect) :
    ref.WordsDue answers ns (defect.toList.map SeedJobDefect.message) := by
  rw [finding_of_some hkey, Except.bind_eq_ok_iff] at hfinding
  obtain ⟨answer, hanswer, hdefect⟩ := hfinding
  rw [Except.mapError_eq_ok_iff] at hdefect
  cases hget : answers ⟨ns, ref.name⟩ with
  | error fault =>
    -- only the fault that there is no such secret counts as an answer
    cases fault with
    | notFound c =>
      obtain rfl : none = answer := by simpa [Answers.find?, hget] using hanswer
      obtain rfl := Except.ok.inj hdefect
      exact .missing c hget
    | _ => simp [Answers.find?, hget] at hanswer
  | ok data =>
    obtain rfl : some data = answer := by simpa [Answers.find?, hget] using hanswer
    rcases hvalue : data.get? ref.key with _ | (_ | ⟨byte, rest⟩)
    · obtain rfl : some (SeedJobDefect.keyEmpty ref) = defect := by
        simpa [keyDefect?, SecretData.value, hvalue] using hdefect
      exact .empty data hget (.inl hvalue)
    · obtain rfl : some (SeedJobDefect.keyEmpty ref) = defect := by
        simpa [keyDefect?, SecretData.value, hvalue] using hdefect
      exact .empty data hget (.inr hvalue)
    · simp only [keyDefect?, SecretData.value, hvalue, Option.getD_some, List.isEmpty_cons,
        Bool.false_eq_true, if_false, Except.map_eq_ok_iff] at hdefect
      obtain ⟨found, hfound, rfl⟩ := hdefect
      cases found with
      | none => exact .accepted data _ hget hvalue (List.cons_ne_nil _ _) hfound
      | some d => exact .refused data _ d hget hvalue (List.cons_ne_nil _ _) hfound

/-- A job whose check comes to its end is told about as is due. -/
theorem due_shown (h : job.fault? answers ns = none) :
    job.Due answers ns (job.shown answers ns) := by
  rw [shown_eq]
  unfold keyDefects
  unfold fault? at h
  cases hfinding : job.finding answers ns with
  | error fault => simp [hfinding] at h
  | ok defect =>
    cases hkey : job.privateKey with
    | none =>
      rw [finding_of_none hkey] at hfinding
      obtain rfl := Except.ok.inj hfinding
      simp only [Option.toList_none, List.map_nil, List.append_nil]
      exact .keyless hkey
    | some ref => exact .keyed ref _ hkey (wordsDue_of_finding hkey hfinding)

/-- Jobs without faults are each due what they show. -/
theorem forall₂_due_shown {jobs : List SeedJob} (h : ∀ job ∈ jobs, job.fault? answers ns = none) :
    List.Forall₂ (Due answers ns) jobs (jobs.map (shown answers ns)) := by
  rw [List.forall₂_map_right_iff, List.forall₂_same]
  exact fun job hjob => due_shown (h job hjob)

/-- Of a job with a fault, the fields alone are told about. -/
theorem shown_of_fault {fault : LookupFault} (h : job.fault? answers ns = some fault) :
    job.shown answers ns = job.fieldWords.map job.remark := by
  have hkeys : job.keyDefects answers ns = [] := by
    unfold keyDefects
    unfold fault? at h
    cases hfinding : job.finding answers ns with
    | ok defect => simp [hfinding] at h
    | error _ => rfl
  rw [shown_eq, hkeys, List.map_nil, List.append_nil]

/-- Nothing is shown for a job that is sound, and something for every other. -/
theorem shown_eq_nil_iff : job.shown answers ns = [] ↔ job.isSound answers ns = true := by
  rw [shown, isSound, List.map_eq_nil_iff, List.append_eq_nil_iff, Bool.and_eq_true,
    List.isEmpty_iff, List.isEmpty_iff]

end SeedJob

/-! ## Seed jobs and backup -/

omit [Platform] in
/-- The missing credentials are those that the data lack, in order. -/
theorem SecretData.lacks_missingCredentials (data : SecretData) :
    data.Lacks data.missingCredentials where
  ordered := List.filter_sublist
  mem_iff := by
    intro key hkey
    have hlisted : key ∈ data.missingCredentials ↔ data.value key = [] := by
      rw [missingCredentials, List.mem_filter, List.isEmpty_iff]
      exact and_iff_right hkey
    rw [hlisted, value]
    cases data.get? key <;> simp

namespace Jenkins

variable {store : Store} {j : Jenkins}

/-- The warnings about the seed jobs, job by job. -/
theorem console_seedJobSteps_eq (store : Store) (j : Jenkins) :
    (j.seedJobSteps store).console =
      ((SeedJob.reached store.get j.ns j.seedJobs).map
        (SeedJob.shown store.get j.ns)).flatten := by
  rw [console_seedJobSteps, List.flatMap_def]
  rfl

/-- Jobs without a fault are all told about. -/
theorem console_seedJobSteps_of_no_fault (h : j.seedJobFault? store.get = none) :
    (j.seedJobSteps store).console = (j.seedJobs.map (SeedJob.shown store.get j.ns)).flatten := by
  rw [console_seedJobSteps_eq, SeedJob.reached_eq_self (List.findSome?_eq_none_iff.mp h)]

/-- There are no warnings about seed jobs that are sound. -/
theorem console_seedJobSteps_eq_nil_iff (h : j.seedJobFault? store.get = none) :
    (j.seedJobSteps store).console = [] ↔ j.seedJobsSound store.get = true := by
  rw [console_seedJobSteps_of_no_fault h, List.flatten_eq_nil_iff, List.forall_mem_map,
    seedJobsSound, List.all_eq_true]
  exact forall₂_congr fun job _ => SeedJob.shown_eq_nil_iff

omit [Platform] in
theorem console_backupSteps_eq_nil_iff {operator : Text} :
    (j.backupSteps store operator).console = [] ↔ j.backupGaps store.get operator = [] := by
  rw [console_backupSteps, List.map_eq_nil_iff]

end Jenkins

namespace Gate

variable (g : Gate) (environment : Option Text) {store : Store} {j : Jenkins}

/-- The backup is told about as is due if its check comes to its end. -/
theorem credentialsDue_of_backup
    (hreached : (j.checkSeedJobs store).outcome = .ok true ∨ g.fullDiagnostics = true)
    (hfault : j.backupFault? store.get (g.operator environment) = none) :
    g.CredentialsDue environment store j
      (j.backupSteps store (g.operator environment)).console := by
  rw [Jenkins.console_backupSteps]
  unfold Jenkins.backupGaps Jenkins.backupSecret?
  unfold Jenkins.backupFault? Jenkins.backupSecret? at hfault
  cases hbackup : j.backup with
  | noBackup => exact .skipped fun h => nomatch hbackup.symm.trans h.1
  | amazonS3 =>
    simp only [hbackup] at hfault ⊢
    cases hanswer : store.get (j.secret (backupSecretName (g.operator environment) j.name)) with
    | error fault => simp [hanswer] at hfault
    | ok data =>
      exact .checked data _ ⟨hbackup, hreached⟩ hanswer data.lacks_missingCredentials

/-- Before a fault of a seed job, the jobs up to that one are told about. -/
theorem exists_aborted {fault : LookupFault} (h : j.seedJobFault? store.get = some fault) :
    ∃ before job after told, j.seedJobs = before ++ job :: after ∧
      (job.lookupFault? store.get j.ns = some fault ∨
        ∃ cause, job.keyBreakdown? store.get j.ns = some cause ∧ fault = .broken cause) ∧
      List.Forall₂ (SeedJob.Due store.get j.ns) before told ∧
      (j.seedJobSteps store).console = told.flatten ++ job.fieldWords.map job.remark := by
  obtain ⟨before, job, after, hjobs, hjob, hbefore⟩ := List.findSome?_eq_some_iff.mp h
  refine ⟨before, job, after, _, hjobs, ?_, SeedJob.forall₂_due_shown hbefore, ?_⟩
  · rw [SeedJob.fault?_eq, Option.or_eq_some_iff] at hjob
    rcases hjob with hlookup | ⟨-, hkey⟩
    · exact .inl hlookup
    · obtain ⟨cause, hcause, rfl⟩ := Option.map_eq_some_iff.mp hkey
      exact .inr ⟨cause, hcause, rfl⟩
  · have hreached : SeedJob.reached store.get j.ns j.seedJobs = before ++ [job] := by
      rw [hjobs]
      exact SeedJob.reached_append hbefore (by rw [hjob]; rfl) after
    rw [Jenkins.console_seedJobSteps_eq, hreached, List.map_append, List.flatten_append,
      List.map_singleton, List.flatten_singleton, SeedJob.shown_of_fault hjob]

/-- Whatever validation shows is a warning. -/
theorem exists_warning_of_mem_console {d : Display}
    (h : d ∈ (g.validate environment store j).trace.console) :
    ∃ body, d = .message .warning body := by
  -- whatever is shown was shown as a complaint
  have hjobs : d ∈ (j.seedJobSteps store).console → ∃ body, d = .message .warning body := by
    rw [Jenkins.console_seedJobSteps]
    intro hd
    obtain ⟨job, -, hd⟩ := List.mem_flatMap.mp hd
    obtain ⟨defect, -, rfl⟩ := List.mem_map.mp hd
    exact ⟨_, rfl⟩
  have hbackup : ∀ operator, d ∈ (j.backupSteps store operator).console →
      ∃ body, d = .message .warning body := by
    intro operator
    rw [Jenkins.console_backupSteps]
    intro hd
    obtain ⟨key, -, rfl⟩ := List.mem_map.mp hd
    exact ⟨_, rfl⟩
  rcases validate_cases g environment store j with ⟨_, -, hrun⟩ | ⟨-, -, hrun⟩ | ⟨-, -, -, hrun⟩
  · rw [hrun] at h
    exact hjobs h
  · rw [hrun, Trace.console_append] at h
    exact (List.mem_append.mp h).elim hjobs (hbackup _)
  · rw [hrun] at h
    exact hjobs h

/-- **The warnings are complete and exact.** Validation shows what is due about the seed jobs in the
order of declaration, then what is due about the backup, and nothing else, and its verdict is `true`
if and only if it has shown nothing. Where a seed job ends it with a fault, it has told about the
jobs before and about the fields of that one. -/
theorem validate_tells (store : Store) (j : Jenkins) :
    g.Tells environment store j (g.validate environment store j) := by
  refine ⟨?silent_iff, fun d hd => exists_warning_of_mem_console g environment hd, ?complete,
    ?aborted⟩
  case silent_iff =>
    intro ok hok
    rcases validate_cases g environment store j with
      ⟨_, -, hrun⟩ | ⟨hfault, -, hrun⟩ | ⟨hfault, hsound, -, hrun⟩
    · rw [hrun] at hok
      cases hok
    · rw [hrun] at hok ⊢
      cases hbackup : j.backupFault? store.get (g.operator environment) with
      | some fault => simp [hbackup, settled] at hok
      | none =>
        simp only [hbackup, settled, Except.ok.injEq] at hok
        -- no warnings are no complaints about the seed jobs and none about the backup
        rw [← hok, Bool.and_eq_true, List.isEmpty_iff, Trace.console_append,
          List.append_eq_nil_iff, Jenkins.console_seedJobSteps_eq_nil_iff hfault,
          Jenkins.console_backupSteps_eq_nil_iff]
    · rw [hrun] at hok ⊢
      obtain rfl := Except.ok.inj hok
      rw [Jenkins.console_seedJobSteps_eq_nil_iff hfault, hsound]
  case complete =>
    intro ok hok
    rcases validate_cases g environment store j with
      ⟨_, -, hrun⟩ | ⟨hfault, hcheck, hrun⟩ | ⟨hfault, hsound, hfull, hrun⟩
    · rw [hrun] at hok
      cases hok
    · have hclear := List.findSome?_eq_none_iff.mp hfault
      have hreached : (j.checkSeedJobs store).outcome = .ok true ∨ g.fullDiagnostics = true :=
        hcheck.imp_left fun hsound => by rw [Jenkins.checkSeedJobs_eq, hfault, hsound, settled]
      rw [hrun] at hok ⊢
      cases hbackup : j.backupFault? store.get (g.operator environment) with
      | some fault => simp [hbackup, settled] at hok
      | none =>
        refine ⟨_, _, SeedJob.forall₂_due_shown hclear,
          credentialsDue_of_backup g environment hreached hbackup, ?_⟩
        rw [Trace.console_append, Jenkins.console_seedJobSteps_of_no_fault hfault]
    · have hclear := List.findSome?_eq_none_iff.mp hfault
      -- the verdict was against the seed jobs, so the backup was not looked at
      have hskipped : ¬g.ReachesCredentials store j := by
        rintro ⟨-, hverdict | hsetting⟩
        · simp [Jenkins.checkSeedJobs_eq, hfault, hsound, settled] at hverdict
        · simp [hfull] at hsetting
      refine ⟨_, _, SeedJob.forall₂_due_shown hclear, .skipped hskipped, ?_⟩
      rw [hrun, Jenkins.console_seedJobSteps_of_no_fault hfault, List.append_nil]
  case aborted =>
    intro fault hfault
    rw [Jenkins.checkSeedJobs_eq, settled_eq_error] at hfault
    rw [validate_of_fault g environment hfault]
    exact ⟨rfl, exists_aborted hfault⟩

end Gate

end

namespace Gate

open scoped BuiltIn

/-- A job without an identifier and without its secret gets two warnings, and each credential
one. -/
example :
    let j : Jenkins := ⟨"j", "ns", [⟨"", "", some ⟨"k", "key"⟩, "", "", ""⟩], .amazonS3⟩
    let credentials : Coordinate := ⟨"ns", "jenkins-operator-backup-credentials-j"⟩
    ((⟨true, none⟩ : Gate).validate none (Secrets.store [(credentials, [])]) j).trace.console =
      [.message .warning "Seed job [highlight]<no id>[/highlight]: seed job id can't be empty",
        .message .warning
          "Seed job [highlight]<no id>[/highlight]: secret [highlight]ns/k[/highlight] not found",
        credentialRemark credentials.name "secret-key",
        credentialRemark credentials.name "access-key"] := by
  decide +kernel

end Gate

end JenkinsAdmission
