import JenkinsAdmission.Proofs.Manifest.Ending
import Mathlib.Data.List.Forall2
import Mathlib.Logic.Relation

/-!
# The grammar of Jenkins manifests

Which documents are Jenkins manifests, and which resource does each of them declare?

* `Manifest.FieldIs` and `Manifest.FieldReads` are about one field, for either way of leaving a
  field out.
* `Manifest.IsJenkins` is the **grammar**. There is a predicate for every part of a manifest that
  has fields of its own.
* `Manifest.JenkinsReads` is the **meaning**. It relates a document to a resource, part by part, as
  the grammar goes.
* `Manifest.JenkinsReads.isJenkins` and `Manifest.IsJenkins.exists_jenkinsReads` say that the
  documents with a meaning are those of the grammar, provided that their texts can be written.
-/

namespace JenkinsAdmission

namespace Value

/-- A value is under the keys of a mapping, one after the other. -/
def Reaches (v w : Value) : Prop :=
  Relation.TransGen (fun v w => ∃ key, v.get? key = some w) v w

/-- What is in a mapping stands in the same table. -/
theorem exists_eq_atPlace {v w : Value} {key : Text} (h : v.get? key = some w) :
    ∃ p, w = v.atPlace p := by
  obtain ⟨entries, hentries, hget⟩ := Option.bind_eq_some_iff.mp h
  obtain ⟨e, hfind, rfl⟩ := Option.map_eq_some_iff.mp hget
  have hmem : e ∈ entries := List.mem_of_find?_eq_some hfind
  have hview := view_of_entries? hentries
  unfold view at hview
  split at hview <;> cases hview
  obtain ⟨⟨k, p⟩, -, rfl⟩ := List.mem_map.mp hmem
  exact ⟨p, rfl⟩

/-- What a value reaches is the same graph, looked at from another place. -/
theorem Reaches.exists_eq_atPlace {v w : Value} (h : v.Reaches w) : ∃ p, w = v.atPlace p := by
  induction h with
  | single h =>
    obtain ⟨key, hget⟩ := h
    exact Value.exists_eq_atPlace hget
  | tail _ h ih =>
    obtain ⟨key, hget⟩ := h
    obtain ⟨p, rfl⟩ := ih
    obtain ⟨q, rfl⟩ := Value.exists_eq_atPlace hget
    exact ⟨q, rfl⟩

/-- Every text of a document can be written if it can be at every place of its table. -/
theorem Reaches.not_unwritable [Platform] {v w : Value} (h : v.Reaches w)
    (hwritten : ∀ p < v.contents.size, (v.atPlace p).written?.isSome = true) : ¬w.Unwritable := by
  obtain ⟨p, rfl⟩ := h.exists_eq_atPlace
  rintro ⟨cause, hunwritable⟩
  by_cases hp : p < v.contents.size
  · have hnone : (v.atPlace p).written? = none := written?_eq_none_iff.mpr ⟨cause, hunwritable⟩
    simpa [hnone] using hwritten p hp
  · -- outside the table there is null
    have hnone : v.contents[p]? = none := Array.getElem?_eq_none (Nat.le_of_not_lt hp)
    simp [written, view, atPlace, hnone, Atom.written, Atom.literal] at hunwritable

end Value

namespace Manifest

/-! ## Fields -/

/-- A field is left out, or what it holds has a property. -/
def FieldIs (leftOut : Value → Bool) (P : Value → Prop) (v : Value) (key : Text) : Prop :=
  ∀ w, v.get? key = some w → leftOut w = false → P w

/-- A field reads as what it holds does, and as the default if it is left out. -/
inductive FieldReads {α : Type} (leftOut : Value → Bool) (R : Value → α → Prop) (default : α)
    (v : Value) (key : Text) : α → Prop
  /-- there is no such field -/
  | missing (h : v.get? key = none) : FieldReads leftOut R default v key default
  /-- the value of the field counts as absent -/
  | absent {w : Value} (h : v.get? key = some w) (hleftOut : leftOut w = true) :
    FieldReads leftOut R default v key default
  /-- the field is given -/
  | given {w : Value} {a : α} (h : v.get? key = some w) (hleftOut : leftOut w = false)
    (ha : R w a) : FieldReads leftOut R default v key a

section Fields

variable {α : Type} {leftOut : Value → Bool} {P : Value → Prop} {R : Value → α → Prop}
  {default a : α} {v w : Value} {key : Text}

/-- A field that is left out has its default. -/
theorem fieldReads_iff_of_eq_none (h : (v.get? key).filter (fun w => !leftOut w) = none) :
    FieldReads leftOut R default v key a ↔ a = default := by
  constructor
  · intro hreads
    cases hreads with
    | missing => rfl
    | absent => rfl
    | given hw hgiven => simp [hw, hgiven] at h
  · rintro rfl
    cases hget : v.get? key with
    | none => exact .missing hget
    | some w => exact .absent hget (by simpa [hget] using h)

/-- A field that is given has what is read from it. -/
theorem fieldReads_iff_of_eq_some (h : (v.get? key).filter (fun w => !leftOut w) = some w) :
    FieldReads leftOut R default v key a ↔ R w a := by
  obtain ⟨hget, hgiven⟩ := Option.filter_eq_some_iff.mp h
  simp only [Bool.not_eq_true'] at hgiven
  constructor
  · intro hreads
    cases hreads with
    | missing hnone => simp [hget] at hnone
    | absent hw habsent =>
      obtain rfl := Option.some.inj (hget.symm.trans hw)
      simp [hgiven] at habsent
    | given hw _ ha =>
      obtain rfl := Option.some.inj (hget.symm.trans hw)
      exact ha
  · exact .given hget hgiven

/-- A field reads as something if what it holds does. -/
theorem exists_fieldReads_iff (h : ∀ w, (∃ a, R w a) ↔ P w) :
    (∃ a, FieldReads leftOut R default v key a) ↔ FieldIs leftOut P v key := by
  constructor
  · rintro ⟨a, hreads⟩ w hw hgiven
    exact (h w).mp ⟨a, (fieldReads_iff_of_eq_some (by simp [hw, hgiven])).mp hreads⟩
  · intro hfield
    cases hget : v.get? key with
    | none => exact ⟨default, .missing hget⟩
    | some w =>
      cases hleftOut : leftOut w with
      | true => exact ⟨default, .absent hget hleftOut⟩
      | false =>
        obtain ⟨a, ha⟩ := (h w).mpr (hfield w hget hleftOut)
        exact ⟨a, .given hget hleftOut ha⟩

end Fields

/-! ## The grammar -/

/-- A text. -/
def IsText (v : Value) : Prop :=
  ∃ t, v.text? = some t

/-- A reference to a value of a secret. -/
structure IsRef (v : Value) : Prop where
  /-- a mapping -/
  mapping : v.isMapping = true
  /-- the name of the secret -/
  name : FieldIs Value.isNull IsText v "name"
  /-- the key of the value -/
  key : FieldIs Value.isNull IsText v "key"

/-- A deploy key. -/
structure IsDeployKey (v : Value) : Prop where
  /-- a mapping -/
  mapping : v.isMapping = true
  /-- the reference -/
  ref : FieldIs Value.isNull IsRef v "secretKeyRef"

/-- A seed job. -/
structure IsSeedJob (v : Value) : Prop where
  /-- a mapping -/
  mapping : v.isMapping = true
  /-- the identifier -/
  id : FieldIs Value.isNull IsText v "id"
  /-- the address of the repository -/
  repositoryUrl : FieldIs Value.isNull IsText v "repositoryUrl"
  /-- the deploy key -/
  privateKey : FieldIs Value.isFalsy IsDeployKey v "privateKey"
  /-- the branch -/
  repositoryBranch : FieldIs Value.isNull IsText v "repositoryBranch"
  /-- the scripts -/
  targets : FieldIs Value.isNull IsText v "targets"
  /-- the description -/
  description : FieldIs Value.isNull IsText v "description"

/-- A list of seed jobs. -/
def IsSeedJobList (v : Value) : Prop :=
  ∃ items, v.items? = some items ∧ ∀ item ∈ items, ∃ job, item = some job ∧ IsSeedJob job

/-- The name of a backup mode. -/
def IsBackupMode (v : Value) : Prop :=
  ∃ mode : BackupMode, v.text? = some mode.name

/-- A specification. -/
structure IsSpec (v : Value) : Prop where
  /-- a mapping -/
  mapping : v.isMapping = true
  /-- the seed jobs -/
  seedJobs : FieldIs Value.isFalsy IsSeedJobList v "seedJobs"
  /-- the backup mode -/
  backup : FieldIs Value.isFalsy IsBackupMode v "backup"

/-- A Jenkins manifest. -/
structure IsJenkins (document : Value) : Prop where
  /-- the kind -/
  kind : (document.get? "kind").bind Value.text? = some ("Jenkins" : Text)
  /-- there are metadata with a name that counts -/
  named : ∃ metadata name, document.get? "metadata" = some metadata ∧
    metadata.get? "name" = some name ∧ name.isFalsy = false
  /-- the specification -/
  spec : FieldIs Value.isFalsy IsSpec document "spec"

/-! ## The meaning -/

/-- A field of text reads as its text, which is empty if the field is left out. -/
abbrev TextReads (v : Value) (key t : Text) : Prop :=
  FieldReads Value.isNull (fun w t => w.text? = some t) [] v key t

/-- A reference reads as its two texts. -/
structure RefReads (v : Value) (ref : SecretKeyRef) : Prop where
  /-- a mapping -/
  mapping : v.isMapping = true
  /-- the name of the secret -/
  name : TextReads v "name" ref.name
  /-- the key of the value -/
  key : TextReads v "key" ref.key

/-- A deploy key reads as its reference, if it has one. -/
@[mk_iff]
structure DeployKeyReads (v : Value) (ref : Option SecretKeyRef) : Prop where
  /-- a mapping -/
  mapping : v.isMapping = true
  /-- the reference -/
  ref : FieldReads Value.isNull (fun w ref => ∃ r, RefReads w r ∧ some r = ref) none v
    "secretKeyRef" ref

/-- A seed job reads as its fields. -/
structure SeedJobReads (v : Value) (job : SeedJob) : Prop where
  /-- a mapping -/
  mapping : v.isMapping = true
  /-- the identifier -/
  id : TextReads v "id" job.id
  /-- the address of the repository -/
  repositoryUrl : TextReads v "repositoryUrl" job.repositoryUrl
  /-- the deploy key -/
  privateKey : FieldReads Value.isFalsy DeployKeyReads none v "privateKey" job.privateKey
  /-- the branch -/
  repositoryBranch : TextReads v "repositoryBranch" job.repositoryBranch
  /-- the scripts -/
  targets : TextReads v "targets" job.targets
  /-- the description -/
  description : TextReads v "description" job.description

/-- An item of the list of seed jobs reads as a seed job. -/
def ItemReads (item : Option Value) (job : SeedJob) : Prop :=
  ∃ v, item = some v ∧ SeedJobReads v job

/-- A list of seed jobs reads item by item. -/
def SeedJobListReads (v : Value) (jobs : List SeedJob) : Prop :=
  ∃ items, v.items? = some items ∧ List.Forall₂ ItemReads items jobs

/-- A backup mode reads by its name. -/
def BackupModeReads (v : Value) (mode : BackupMode) : Prop :=
  v.text? = some mode.name

/-- A specification reads as its seed jobs and its backup mode. -/
@[mk_iff]
structure SpecReads (v : Value) (content : List SeedJob × BackupMode) : Prop where
  /-- a mapping -/
  mapping : v.isMapping = true
  /-- the seed jobs -/
  seedJobs : FieldReads Value.isFalsy SeedJobListReads [] v "seedJobs" content.1
  /-- the backup mode -/
  backup : FieldReads Value.isFalsy BackupModeReads .noBackup v "backup" content.2

/-- A value reads as the text of it that is written. -/
def Written [Platform] (v : Value) (t : Text) : Prop :=
  v.written? = some t

/-- A Jenkins manifest reads as a resource. -/
structure JenkinsReads [Platform] (defaultNamespace : Text) (document : Value) (j : Jenkins) : Prop where
  /-- the kind -/
  kind : (document.get? "kind").bind Value.text? = some ("Jenkins" : Text)
  /-- the metadata have a name that counts, and a namespace unless it is the default -/
  metadata : ∃ metadata name, document.get? "metadata" = some metadata ∧
    metadata.get? "name" = some name ∧ name.isFalsy = false ∧ Written name j.name ∧
    FieldReads Value.isFalsy Written defaultNamespace metadata "namespace" j.ns
  /-- the seed jobs and the backup mode -/
  spec : FieldReads Value.isFalsy SpecReads ([], .noBackup) document "spec"
    (j.seedJobs, j.backup)

/-- A seed job has no deploy key exactly if no reference to a secret is given. -/
theorem SeedJobReads.privateKey_eq_none_iff {v : Value} {job : SeedJob} (h : SeedJobReads v job) :
    job.privateKey = none ↔ ∀ deployKey ref, v.get? "privateKey" = some deployKey →
      deployKey.get? "secretKeyRef" = some ref → ref.isNull = true := by
  have hreads := h.privateKey
  generalize job.privateKey = key? at hreads ⊢
  cases hreads with
  | missing hnone => simp [hnone]
  -- a falsy deploy key has no fields
  | absent hget hfalsy =>
    refine iff_of_true rfl fun deployKey ref hdeployKey href => ?_
    obtain rfl := Option.some.inj (hget.symm.trans hdeployKey)
    simp [(Value.isMapping_of_get? href).2] at hfalsy
  | @given w _ hget _ hreads =>
    have hdeployKey : (∀ deployKey ref, v.get? "privateKey" = some deployKey →
        deployKey.get? "secretKeyRef" = some ref → ref.isNull = true) ↔
        ∀ ref, w.get? "secretKeyRef" = some ref → ref.isNull = true := by
      simp only [hget, Option.some.injEq]
      exact ⟨fun h ref => h w ref rfl, fun h _ ref hw => hw ▸ h ref⟩
    -- otherwise it is what the reference in it says
    rw [hdeployKey]
    cases hreads.ref with
    | missing hnone => simp [hnone]
    | absent href hnull => simp [href, hnull]
    | given href hnull href' =>
      obtain ⟨r, -, rfl⟩ := href'
      simp [href, hnull]

/-! ## What is of the grammar has a meaning -/

section Meaning

variable {v document : Value} {key : Text}

/-- A field has a text as its meaning if it is one or is left out. -/
theorem exists_textReads_iff : (∃ t, TextReads v key t) ↔ FieldIs Value.isNull IsText v key :=
  exists_fieldReads_iff fun _ => Iff.rfl

/-- A reference has a meaning if both of its parts do. -/
theorem exists_refReads_iff : (∃ ref, RefReads v ref) ↔ IsRef v := by
  constructor
  · rintro ⟨ref, h⟩
    exact ⟨h.mapping, exists_textReads_iff.mp ⟨_, h.name⟩, exists_textReads_iff.mp ⟨_, h.key⟩⟩
  · intro h
    obtain ⟨name, hname⟩ := exists_textReads_iff.mpr h.name
    obtain ⟨key, hkey⟩ := exists_textReads_iff.mpr h.key
    exact ⟨⟨name, key⟩, h.mapping, hname, hkey⟩

theorem exists_deployKeyReads_iff : (∃ ref, DeployKeyReads v ref) ↔ IsDeployKey v := by
  have href : (∃ ref, FieldReads Value.isNull (fun w ref => ∃ r, RefReads w r ∧ some r = ref) none v
      "secretKeyRef" ref) ↔ FieldIs Value.isNull IsRef v "secretKeyRef" := by
    refine exists_fieldReads_iff fun w => ?_
    rw [exists_comm, ← exists_refReads_iff]
    simp
  constructor
  · rintro ⟨ref, h⟩
    exact ⟨h.mapping, href.mp ⟨ref, h.ref⟩⟩
  · intro h
    obtain ⟨ref, hreads⟩ := href.mpr h.ref
    exact ⟨ref, h.mapping, hreads⟩

/-- A seed job has a meaning if all of its fields do. -/
theorem exists_seedJobReads_iff : (∃ job, SeedJobReads v job) ↔ IsSeedJob v := by
  constructor
  · rintro ⟨job, h⟩
    exact ⟨h.mapping, exists_textReads_iff.mp ⟨_, h.id⟩,
      exists_textReads_iff.mp ⟨_, h.repositoryUrl⟩,
      (exists_fieldReads_iff fun _ => exists_deployKeyReads_iff).mp ⟨_, h.privateKey⟩,
      exists_textReads_iff.mp ⟨_, h.repositoryBranch⟩, exists_textReads_iff.mp ⟨_, h.targets⟩,
      exists_textReads_iff.mp ⟨_, h.description⟩⟩
  · intro h
    obtain ⟨id, hid⟩ := exists_textReads_iff.mpr h.id
    obtain ⟨url, hurl⟩ := exists_textReads_iff.mpr h.repositoryUrl
    obtain ⟨deployKey, hdeployKey⟩ :=
      (exists_fieldReads_iff fun _ => exists_deployKeyReads_iff).mpr h.privateKey
    obtain ⟨branch, hbranch⟩ := exists_textReads_iff.mpr h.repositoryBranch
    obtain ⟨targets, htargets⟩ := exists_textReads_iff.mpr h.targets
    obtain ⟨description, hdescription⟩ := exists_textReads_iff.mpr h.description
    exact ⟨⟨id, url, deployKey, branch, targets, description⟩, h.mapping, hid, hurl, hdeployKey,
      hbranch, htargets, hdescription⟩

/-- A list has a meaning if all of its items do. -/
theorem exists_forall₂_iff {α β : Type} {R : α → β → Prop} {l : List α} :
    (∃ l', List.Forall₂ R l l') ↔ ∀ a ∈ l, ∃ b, R a b := by
  induction l with
  | nil => simp
  | cons a l ih =>
    rw [List.forall_mem_cons, ← ih]
    constructor
    · rintro ⟨_, h⟩
      obtain ⟨b, l', hb, hl, -⟩ := List.forall₂_cons_left_iff.mp h
      exact ⟨⟨b, hb⟩, l', hl⟩
    · rintro ⟨⟨b, hb⟩, l', hl⟩
      exact ⟨b :: l', .cons hb hl⟩

theorem exists_seedJobListReads_iff : (∃ jobs, SeedJobListReads v jobs) ↔ IsSeedJobList v := by
  have hitem : ∀ item, (∃ job, ItemReads item job) ↔ ∃ w, item = some w ∧ IsSeedJob w := by
    intro item
    simp only [ItemReads, ← exists_seedJobReads_iff]
    rw [exists_comm]
    simp
  unfold SeedJobListReads IsSeedJobList
  rw [exists_comm]
  simp only [exists_and_left, exists_forall₂_iff, hitem]

theorem exists_specReads_iff : (∃ content, SpecReads v content) ↔ IsSpec v := by
  constructor
  · rintro ⟨content, h⟩
    exact ⟨h.mapping, (exists_fieldReads_iff fun _ => exists_seedJobListReads_iff).mp
      ⟨_, h.seedJobs⟩, (exists_fieldReads_iff fun _ => Iff.rfl).mp ⟨_, h.backup⟩⟩
  · intro h
    obtain ⟨jobs, hjobs⟩ :=
      (exists_fieldReads_iff fun _ => exists_seedJobListReads_iff).mpr h.seedJobs
    obtain ⟨mode, hmode⟩ := (exists_fieldReads_iff fun _ => Iff.rfl).mpr h.backup
    exact ⟨(jobs, mode), h.mapping, hjobs, hmode⟩

variable [Platform]

/-- Only documents of the grammar have a meaning. -/
theorem JenkinsReads.isJenkins {defaultNamespace : Text} {j : Jenkins}
    (h : JenkinsReads defaultNamespace document j) : IsJenkins document := by
  obtain ⟨metadata, name, hmetadata, hname, hgiven, -, -⟩ := h.metadata
  exact ⟨h.kind, ⟨metadata, name, hmetadata, hname, hgiven⟩,
    (exists_fieldReads_iff fun _ => exists_specReads_iff).mp ⟨_, h.spec⟩⟩

/-- A value has a written form unless it cannot be written. -/
theorem exists_written_iff : (∃ t, Written v t) ↔ ¬v.Unwritable := by
  rw [Value.Unwritable, ← Value.written?_eq_none_iff, ← ne_eq, Option.ne_none_iff_exists']
  rfl

/-- All documents of the grammar have a meaning if their texts can be written. -/
theorem IsJenkins.exists_jenkinsReads (h : IsJenkins document)
    (hwritable : ∀ w, document.Reaches w → ¬w.Unwritable) (defaultNamespace : Text) :
    ∃ j, JenkinsReads defaultNamespace document j := by
  obtain ⟨metadata, name, hmetadata, hname, hgiven⟩ := h.named
  have hin : ∀ {key w}, metadata.get? key = some w → ∃ t, Written w t := fun hget =>
    exists_written_iff.mpr (hwritable _ (.tail (.single ⟨_, hmetadata⟩) ⟨_, hget⟩))
  obtain ⟨nameText, hnameText⟩ := hin hname
  obtain ⟨ns, hns⟩ :
      ∃ ns, FieldReads Value.isFalsy Written defaultNamespace metadata "namespace" ns :=
    (exists_fieldReads_iff fun _ => Iff.rfl).mpr fun w hw _ => hin hw
  obtain ⟨⟨jobs, mode⟩, hspec⟩ :
      ∃ content, FieldReads Value.isFalsy SpecReads ([], .noBackup) document "spec" content :=
    (exists_fieldReads_iff fun _ => exists_specReads_iff).mpr h.spec
  exact ⟨⟨nameText, ns, jobs, mode⟩, h.kind,
    ⟨metadata, name, hmetadata, hname, hgiven, hnameText, hns⟩, hspec⟩

end Meaning

end Manifest

end JenkinsAdmission
