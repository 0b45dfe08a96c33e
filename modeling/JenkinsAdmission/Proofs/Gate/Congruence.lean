import JenkinsAdmission.Proofs.Gate.Course

/-!
# Stores that validation does not tell apart

Validation reads little of what a store answers: whether there is a secret, which defect its deploy
key has, and which credentials it lacks. Two stores with the same answers to these questions are
interchangeable.

* `Alike` relates two answers that are the same fault, or data that are related.
* `Jenkins.Agree` relates two stores by what validation of a resource reads of their answers.
* `Gate.validate_congr` says that validation is the same, event by event, over stores of one source
  that agree.
* `Gate.validate_sameCourse` says that over any stores that agree it has the same outcome, the same
  messages and the same lookups.
-/

namespace JenkinsAdmission

/-- Two answers that are the same fault, or data that are related. -/
def Alike (R : SecretData → SecretData → Prop) (x y : Except LookupFault SecretData) : Prop :=
  (∃ fault, x = .error fault ∧ y = .error fault) ∨ ∃ d e, x = .ok d ∧ y = .ok e ∧ R d e

/-- Outcomes that are alike stay alike when less is asked of them. -/
theorem Alike.imp {R S : SecretData → SecretData → Prop} {x y : Except LookupFault SecretData}
    (h : Alike R x y) (hRS : ∀ d e, R d e → S d e) : Alike S x y :=
  h.imp_right fun ⟨d, e, hx, hy, hR⟩ => ⟨d, e, hx, hy, hRS d e hR⟩

/-! ## Findings -/

section

variable [Platform]

/-- Data in which the check of a deploy key finds the same. -/
def SameDefect (ref : SecretKeyRef) (d e : SecretData) : Prop :=
  ∀ secret, SeedJob.keyDefect? secret ref (some d) = SeedJob.keyDefect? secret ref (some e)

/-- A finding depends on the answers only through the secret that the seed job refers to. -/
theorem SeedJob.finding_congr {a b : Answers} {ns : Text} {job : SeedJob}
    (h : ∀ ref, job.privateKey = some ref →
      Alike (SameDefect ref) (a ⟨ns, ref.name⟩) (b ⟨ns, ref.name⟩)) :
    job.finding a ns = job.finding b ns := by
  cases hkey : job.privateKey with
  | none => rw [finding_of_none hkey, finding_of_none hkey]
  | some ref =>
    rw [finding_of_some hkey, finding_of_some hkey]
    rcases h ref hkey with ⟨fault, ha, hb⟩ | ⟨d, e, ha, hb, hsame⟩
    · simp only [Answers.find?, ha, hb]
    · simp only [Answers.find?, ha, hb, Except.ok_bind]
      rw [hsame]

/-- The answers of two stores lead to the same findings on the seed jobs of a resource and to the
same gaps in the credentials of its backup. -/
structure Jenkins.Agree (operator : Text) (j : Jenkins) (a b : Answers) : Prop where
  /-- the same findings -/
  deployKeys : ∀ job ∈ j.seedJobs, ∀ ref, job.privateKey = some ref →
    Alike (SameDefect ref) (a (j.secret ref.name)) (b (j.secret ref.name))
  /-- the same gaps -/
  credentials : j.backup = .amazonS3 →
    Alike (fun d e => d.missingCredentials = e.missingCredentials)
      (a (j.secret (backupSecretName operator j.name)))
      (b (j.secret (backupSecretName operator j.name)))

/-! ## Checks -/

namespace SeedJob

variable {s t : Store} {ns : Text}

/-- The check of a job depends on the finding alone. -/
theorem check_congr {job : SeedJob} (hsource : s.source = t.source)
    (h : job.finding s.get ns = job.finding t.get ns) : job.check s ns = job.check t ns := by
  rw [check_eq, check_eq]
  simp only [fault?, isSound, keyDefects, steps, h, hsource]

/-- Jobs that are checked alike one by one are checked alike together. -/
theorem checkAll_congr {jobs : List SeedJob}
    (h : ∀ job ∈ jobs, job.check s ns = job.check t ns) :
    checkAll s ns jobs = checkAll t ns jobs := by
  induction jobs with
  | nil => rfl
  | cons job rest ih =>
    rw [checkAll, checkAll, h job (List.mem_cons_self ..),
      ih fun b hb => h b (List.mem_cons_of_mem _ hb)]

end SeedJob

namespace Jenkins

variable {s t : Store} {operator : Text} {j : Jenkins}

theorem checkSeedJobs_congr (hsource : s.source = t.source)
    (h : j.Agree operator s.get t.get) : j.checkSeedJobs s = j.checkSeedJobs t :=
  SeedJob.checkAll_congr fun job hjob =>
    SeedJob.check_congr hsource (SeedJob.finding_congr (h.deployKeys job hjob))

/-- The check of a backup depends only on the answer for the secret of the operator. -/
theorem checkBackup_congr (hsource : s.source = t.source) (h : j.Agree operator s.get t.get) :
    j.checkBackup s operator = j.checkBackup t operator := by
  rw [checkBackup_eq, checkBackup_eq]
  unfold backupSteps backupFault? backupGaps backupSecret?
  cases hbackup : j.backup with
  | noBackup => rfl
  | amazonS3 =>
    rcases h.credentials hbackup with ⟨fault, hs, ht⟩ | ⟨d, e, hs, ht, hgaps⟩
    · simp only [hs, ht, hsource]
    · simp only [hs, ht, hgaps, hsource]

end Jenkins

/-! ## Validation -/

namespace Gate

variable (g : Gate) (environment : Option Text) {s t : Store}

/-- Validation is the same over stores that agree on the resource. -/
theorem validate_congr {j : Jenkins} (hsource : s.source = t.source)
    (h : j.Agree (g.operator environment) s.get t.get) :
    g.validate environment s j = g.validate environment t j := by
  rw [validate, validate, Jenkins.checkSeedJobs_congr hsource h,
    Jenkins.checkBackup_congr hsource h]

end Gate

end

/-- Two runs with the same outcome, the same messages and the same lookups, whatever the sources of
the secrets. -/
structure Run.SameCourse {ε α : Type} (m n : Run ε α) : Prop where
  /-- the outcomes are the same -/
  outcome : m.outcome = n.outcome
  /-- the messages are the same -/
  console : m.trace.console = n.trace.console
  /-- the lookups are the same -/
  lookups : m.trace.lookups = n.trace.lookups

namespace Gate

variable [Platform]

/-- The source of the secrets does not matter for the course of validation. -/
theorem validate_sameCourse_of_get_eq (g : Gate) (environment : Option Text) {s t : Store}
    (h : s.get = t.get) (j : Jenkins) :
    (g.validate environment s j).SameCourse (g.validate environment t j) := by
  rcases validate_cases g environment s j with
    ⟨fault, hfault, hrun⟩ | ⟨hfault, hcheck, hrun⟩ | ⟨hfault, hsound, hfull, hrun⟩
  · rw [hrun, validate_of_fault g environment (h ▸ hfault)]
    exact ⟨rfl, by simp [h], by simp [h]⟩
  · rw [hrun, validate_of_backup g environment (h ▸ hfault) (h ▸ hcheck)]
    exact ⟨by rw [h], by simp [h], by simp [h]⟩
  · rw [hrun, validate_of_unsound g environment (h ▸ hfault) (h ▸ hsound) hfull]
    exact ⟨rfl, by simp [h], by simp [h]⟩

/-- Validation takes the same course over stores that agree on the resource. -/
theorem validate_sameCourse (g : Gate) (environment : Option Text) {s t : Store} {j : Jenkins}
    (h : j.Agree (g.operator environment) s.get t.get) :
    (g.validate environment s j).SameCourse (g.validate environment t j) := by
  let r : Store := ⟨s.source, t.get⟩
  have hsource : g.validate environment s j = g.validate environment r j :=
    validate_congr g environment rfl h
  have hget : r.get = t.get := rfl
  rw [hsource]
  exact validate_sameCourse_of_get_eq g environment hget j

end Gate

end JenkinsAdmission
