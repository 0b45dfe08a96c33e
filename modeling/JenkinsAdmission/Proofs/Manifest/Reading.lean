import JenkinsAdmission.BuiltIn
import JenkinsAdmission.Proofs.Manifest.Breakdown
import JenkinsAdmission.Proofs.Manifest.Grammar

/-!
# Reading Jenkins manifests

The reader goes through a document field by field and stops at the first one at fault. What it comes
to is the meaning of the document.

* There is a lemma for every part of a manifest, which says that the reader of the part comes to
  what the part reads as. `Manifest.jenkins_eq_ok_iff` is the one for the whole.
* `Manifest.jenkins_decides` is about documents in which every text can be written: those of the
  grammar are read, and all others are rejected.
-/

namespace JenkinsAdmission

/-- A mode is recognised by its name. -/
theorem BackupMode.ofName?_eq_some_iff {t : Text} {mode : BackupMode} :
    ofName? t = some mode ↔ t = mode.name := by
  have hnames : noBackup.name ≠ amazonS3.name := by
    decide
  constructor
  · intro h
    have hname := List.find?_some h
    exact (eq_of_beq hname).symm
  · rintro rfl
    cases mode with
    | noBackup => simp [ofName?, all]
    | amazonS3 => simp [ofName?, all, hnames]

namespace Manifest

variable {v document : Value} {key t defaultNamespace : Text} {index : Nat}

/-! ## Seed jobs -/

/-- The reader of texts reads what the reference reads. -/
theorem textField_eq_ok_iff {field : JenkinsField} :
    textField v key field = .ok t ↔ TextReads v key t := by
  unfold textField TextReads
  cases hgiven : v.nonNull? key with
  | none => rw [fieldReads_iff_of_eq_none hgiven, Except.ok.injEq, eq_comm]
  | some w =>
    rw [fieldReads_iff_of_eq_some hgiven]
    cases htext : w.text? <;> simp [htext]

theorem expectMapping_eq_ok_iff {field : JenkinsField} {u : Unit} :
    expectMapping v field = .ok u ↔ v.isMapping = true := by
  unfold expectMapping
  cases v.isMapping <;> simp

theorem secretKeyRef_eq_ok_iff {ref : SecretKeyRef} :
    secretKeyRef index v = .ok ref ↔ RefReads v ref := by
  simp only [secretKeyRef, Except.bind_eq_ok_iff, expectMapping_eq_ok_iff, textField_eq_ok_iff,
    Except.pure_eq, Except.ok.injEq]
  constructor
  · rintro ⟨-, hmapping, name, hname, key, hkey, rfl⟩
    exact ⟨hmapping, hname, hkey⟩
  · rintro ⟨hmapping, hname, hkey⟩
    exact ⟨(), hmapping, _, hname, _, hkey, rfl⟩

/-- The deploy key, or none where it is falsy. -/
theorem privateKey_eq_ok_iff {ref : Option SecretKeyRef} :
    privateKey index v = .ok ref ↔
      FieldReads Value.isFalsy DeployKeyReads none v "privateKey" ref := by
  unfold privateKey
  cases hgiven : v.given? "privateKey" with
  | none => rw [fieldReads_iff_of_eq_none hgiven, Except.pure_eq, Except.ok.injEq, eq_comm]
  | some deployKey =>
    rw [fieldReads_iff_of_eq_some hgiven, deployKeyReads_iff]
    simp only [Except.bind_eq_ok_iff, expectMapping_eq_ok_iff, exists_const]
    refine and_congr_right fun _ => ?_
    cases href : deployKey.nonNull? "secretKeyRef" with
    | none => rw [fieldReads_iff_of_eq_none href, Except.pure_eq, Except.ok.injEq, eq_comm]
    | some w =>
      rw [fieldReads_iff_of_eq_some href]
      simp only [← @secretKeyRef_eq_ok_iff w index]
      exact Except.map_eq_ok_iff

/-- The reader of seed jobs reads what the reference reads. -/
theorem seedJob_eq_ok_iff {job : SeedJob} : seedJob index v = .ok job ↔ SeedJobReads v job := by
  simp only [seedJob, Except.bind_eq_ok_iff, expectMapping_eq_ok_iff, textField_eq_ok_iff,
    privateKey_eq_ok_iff, Except.pure_eq, Except.ok.injEq]
  constructor
  · rintro ⟨-, hmapping, id, hid, url, hurl, ref, href, branch, hbranch, targets, htargets,
      description, hdescription, rfl⟩
    exact ⟨hmapping, hid, hurl, href, hbranch, htargets, hdescription⟩
  · rintro ⟨hmapping, hid, hurl, href, hbranch, htargets, hdescription⟩
    exact ⟨(), hmapping, _, hid, _, hurl, _, href, _, hbranch, _, htargets, _, hdescription, rfl⟩

/-- The items are read one by one, whatever index the first of them has. -/
theorem seedJobsFrom_eq_ok_iff {items : List (Option Value)} {jobs : List SeedJob} :
    seedJobsFrom index items = .ok jobs ↔ List.Forall₂ ItemReads items jobs := by
  induction items generalizing index jobs with
  | nil => rw [seedJobsFrom, List.forall₂_nil_left_iff, Except.ok.injEq, eq_comm]
  | cons item items ih =>
    rw [List.forall₂_cons_left_iff]
    cases item with
    | none => simp [seedJobsFrom, ItemReads]
    | some v =>
      simp only [seedJobsFrom, Except.bind_eq_ok_iff, seedJob_eq_ok_iff, ih, Except.pure_eq,
        Except.ok.injEq, ItemReads, Option.some.injEq, exists_eq_left']
      constructor
      · rintro ⟨job, hjob, jobs, hjobs, rfl⟩
        exact ⟨job, jobs, hjob, hjobs, rfl⟩
      · rintro ⟨job, jobs, hjob, hjobs, rfl⟩
        exact ⟨job, hjob, jobs, hjobs, rfl⟩

/-! ## The specification -/

/-- The seed jobs of a specification are listed and then read. -/
theorem exists_seedJobItems_iff {spec : Value} {jobs : List SeedJob} :
    (∃ items, seedJobItems (some spec) = .ok items ∧ seedJobsFrom 0 items = .ok jobs) ↔
      FieldReads Value.isFalsy SeedJobListReads [] spec "seedJobs" jobs := by
  simp only [seedJobItems, Option.bind_some, seedJobsFrom_eq_ok_iff]
  cases hgiven : spec.given? "seedJobs" with
  | none =>
    rw [fieldReads_iff_of_eq_none hgiven]
    simp [List.forall₂_nil_left_iff]
  | some w =>
    rw [fieldReads_iff_of_eq_some hgiven, SeedJobListReads]
    cases hitems : w.items? <;> simp [hitems]

section

variable [Platform]

/-- The backup mode of a specification, or none. -/
theorem backupMode_some_eq_ok_iff {spec : Value} {mode : BackupMode} :
    backupMode (some spec) = .ok mode ↔
      FieldReads Value.isFalsy BackupModeReads .noBackup spec "backup" mode := by
  simp only [backupMode, Option.bind_some]
  cases hgiven : spec.given? "backup" with
  | none => rw [fieldReads_iff_of_eq_none hgiven, Except.ok.injEq, eq_comm]
  | some w =>
    have hname : (∃ t, w.text? = some t ∧ BackupMode.ofName? t = some mode) ↔
        w.text? = some mode.name := by
      simp only [BackupMode.ofName?_eq_some_iff, exists_eq_right]
    rw [fieldReads_iff_of_eq_some hgiven, BackupModeReads, ← hname, ← Option.bind_eq_some_iff]
    cases hmode : w.text?.bind BackupMode.ofName? with
    | some mode' => simp [hmode]
    | none => simp [hmode, Except.bind_eq_ok_iff, Except.throw_eq]

omit [Platform] in
/-- The specification is the field as it is given, if it is a mapping at all. -/
theorem specification?_eq_ok_iff {spec? : Option Value} :
    specification? document = .ok spec? ↔
      document.given? "spec" = spec? ∧ ∀ spec, spec? = some spec → spec.isMapping = true := by
  unfold specification?
  cases document.given? "spec" with
  | none =>
    rw [Except.pure_eq, Except.ok.injEq]
    exact (and_iff_left_of_imp fun h _ hspec => by simp [← h] at hspec).symm
  | some w =>
    simp only [Except.bind_eq_ok_iff, expectMapping_eq_ok_iff, exists_const, Except.pure_eq,
      Except.ok.injEq]
    constructor
    · rintro ⟨hmapping, rfl⟩
      exact ⟨rfl, fun _ hspec => Option.some.inj hspec ▸ hmapping⟩
    · rintro ⟨rfl, hmapping⟩
      exact ⟨hmapping w rfl, rfl⟩

/-- What becomes of the specification of a document. -/
theorem exists_specification?_iff {jobs : List SeedJob} {mode : BackupMode} :
    (∃ spec, specification? document = .ok spec ∧
        (∃ items, seedJobItems spec = .ok items ∧ seedJobsFrom 0 items = .ok jobs) ∧
        backupMode spec = .ok mode) ↔
      FieldReads Value.isFalsy SpecReads ([], .noBackup) document "spec" (jobs, mode) := by
  simp only [specification?_eq_ok_iff, and_assoc, exists_eq_left']
  cases hgiven : document.given? "spec" with
  | none =>
    rw [fieldReads_iff_of_eq_none hgiven, Prod.mk.injEq, @eq_comm _ jobs, @eq_comm _ mode]
    simp [seedJobItems, seedJobsFrom, backupMode]
  | some spec =>
    rw [fieldReads_iff_of_eq_some hgiven, specReads_iff, ← exists_seedJobItems_iff,
      ← backupMode_some_eq_ok_iff]
    simp only [Option.some.injEq, forall_eq']

/-! ## The whole document -/

theorem namespaceOr_eq_ok_iff {default : Text} :
    namespaceOr default v = .ok t ↔ FieldReads Value.isFalsy Written default v "namespace" t := by
  unfold namespaceOr
  cases hgiven : v.given? "namespace" with
  | none => rw [fieldReads_iff_of_eq_none hgiven, Except.ok.injEq, eq_comm]
  | some ns => rw [fieldReads_iff_of_eq_some hgiven, textOrBreak_eq_ok_iff, Written]

/-- The kind has to be the text of that name. -/
theorem expectJenkins_eq_ok_iff {u : Unit} :
    expectJenkins document = .ok u ↔
      (document.get? "kind").bind Value.text? = some ("Jenkins" : Text) := by
  unfold expectJenkins
  cases document.get? "kind" with
  | none => simp
  | some kind =>
    simp only [Option.bind_some]
    by_cases htext : kind.text? = some ("Jenkins" : Text)
    · rw [if_pos htext]
      exact iff_of_true rfl htext
    · rw [if_neg htext]
      simp [htext, Except.bind_eq_ok_iff, Except.throw_eq]

omit [Platform] in
/-- The metadata have to be there, and so has a name that is not falsy. -/
theorem metadata_eq_ok_iff {m name : Value} :
    metadata document = .ok (m, name) ↔
      document.get? "metadata" = some m ∧ m.get? "name" = some name ∧ name.isFalsy = false := by
  -- a field that is given is there and is not falsy
  have hmetadata : metadata document = .ok (m, name) ↔
      document.given? "metadata" = some m ∧ m.given? "name" = some name := by
    unfold metadata
    cases document.given? "metadata" with
    | none => simp
    | some w =>
      cases hname : w.given? "name" with
      | none =>
        refine iff_of_false (by simp [hname]) ?_
        rintro ⟨hw, hgiven⟩
        rw [← Option.some.inj hw, hname] at hgiven
        cases hgiven
      | some n =>
        simp only [hname, Except.ok.injEq, Prod.mk.injEq, Option.some.injEq]
        refine and_congr_right fun hw => ?_
        rw [← hw, hname, Option.some.injEq]
  rw [hmetadata, Value.given?_eq_some_iff, Value.given?_eq_some_iff]
  -- only a mapping has fields, so the metadata are not falsy
  exact ⟨fun ⟨⟨h, _⟩, hname⟩ => ⟨h, hname⟩,
    fun ⟨h, hname⟩ => ⟨⟨h, (Value.isMapping_of_get? hname.1).2⟩, hname⟩⟩

/-- Reading comes to what the document means, and to nothing else. -/
theorem jenkins_eq_ok_iff {j : Jenkins} :
    jenkins defaultNamespace document = .ok j ↔ JenkinsReads defaultNamespace document j := by
  simp only [jenkins, Except.bind_eq_ok_iff, Except.mapError_eq_ok_iff, expectJenkins_eq_ok_iff,
    exists_const, Prod.exists, metadata_eq_ok_iff, textOrBreak_eq_ok_iff, namespaceOr_eq_ok_iff,
    Except.pure_eq, Except.ok.injEq]
  constructor
  · rintro ⟨hkind, m, name, ⟨hmetadata, hname, hgiven⟩, spec, hspec, items, hitems, nameText,
      hnameText, ns, hns, jobs, hjobs, mode, hmode, rfl⟩
    exact ⟨hkind, ⟨m, name, hmetadata, hname, hgiven, hnameText, hns⟩,
      exists_specification?_iff.mp ⟨spec, hspec, ⟨items, hitems, hjobs⟩, hmode⟩⟩
  · rintro ⟨hkind, ⟨m, name, hmetadata, hname, hgiven, hnameText, hns⟩, hspec⟩
    obtain ⟨spec, hspec, ⟨items, hitems, hjobs⟩, hmode⟩ := exists_specification?_iff.mpr hspec
    exact ⟨hkind, m, name, ⟨hmetadata, hname, hgiven⟩, spec, hspec, items, hitems, _, hnameText,
      _, hns, _, hjobs, _, hmode, rfl⟩

/-! ## The theorem -/

/-- Where every text can be written, nothing breaks down. -/
theorem not_jenkinsUnwritable (h : ∀ w, document.Reaches w → ¬w.Unwritable) :
    ¬JenkinsUnwritable document := by
  intro hdocument
  cases hdocument with
  | kind hgiven hkind => exact h _ (.single ⟨_, hgiven⟩) hkind
  | name hparts hname =>
    obtain ⟨hmetadata, hget, -⟩ := metadata_eq_ok_iff.mp hparts.isNamed
    exact h _ (.tail (.single ⟨_, hmetadata⟩) ⟨_, hget⟩) hname
  | ns hparts hgiven hns =>
    obtain ⟨hmetadata, -, -⟩ := metadata_eq_ok_iff.mp hparts.isNamed
    exact h _ (.tail (.single ⟨_, hmetadata⟩) ⟨_, (Value.given?_eq_some_iff.mp hgiven).1⟩) hns
  | backup hparts _ hgiven hmode =>
    obtain ⟨spec, rfl, hgiven⟩ := Option.bind_eq_some_iff.mp hgiven
    obtain ⟨hspec, -⟩ := specification?_eq_ok_iff.mp hparts.isSpecified
    obtain ⟨hspec, -⟩ := Value.given?_eq_some_iff.mp hspec
    exact h _ (.tail (.single ⟨_, hspec⟩) ⟨_, (Value.given?_eq_some_iff.mp hgiven).1⟩) hmode

/-- **Exactly the grammar is accepted, and nothing is lost.** A document in which every text can be
written is read if and only if it is a Jenkins manifest, and it is rejected otherwise. What is read
is the resource that the document means, where a seed job has no deploy key exactly if no reference
to a secret is given. -/
theorem jenkins_decides (h : ∀ w, document.Reaches w → ¬w.Unwritable) (defaultNamespace : Text) :
    ((∃ j, jenkins defaultNamespace document = .ok j) ↔ IsJenkins document) ∧
      (¬IsJenkins document →
        ∃ defect, jenkins defaultNamespace document = .error (.rejected defect)) ∧
      (∀ j, jenkins defaultNamespace document = .ok j ↔
        JenkinsReads defaultNamespace document j) ∧
      ∀ v job, SeedJobReads v job → (job.privateKey = none ↔
        ∀ deployKey ref, v.get? "privateKey" = some deployKey →
          deployKey.get? "secretKeyRef" = some ref → ref.isNull = true) := by
  have haccepts : (∃ j, jenkins defaultNamespace document = .ok j) ↔ IsJenkins document := by
    simp only [jenkins_eq_ok_iff]
    exact ⟨fun ⟨_, hj⟩ => hj.isJenkins, fun hdocument =>
      hdocument.exists_jenkinsReads h defaultNamespace⟩
  refine ⟨haccepts, fun hdocument => ?_, fun _ => jenkins_eq_ok_iff,
    fun _ _ hjob => hjob.privateKey_eq_none_iff⟩
  have hsettled : Settled (jenkins defaultNamespace document) := by
    rw [settled_iff_not_breaks, breaks_jenkins_iff]
    exact not_jenkinsUnwritable h
  exact hsettled.resolve_left fun hok => hdocument (haccepts.mp hok)

end

section

open scoped BuiltIn

/-- A manifest with a number for a name, an empty namespace, and two seed jobs, one of which has an
empty list for a deploy key. -/
def numberedDocument : Value :=
  Tree.toValue (.mapping [(.text "kind", .atom (.text "Jenkins")),
    (.text "metadata", .mapping [(.text "name", .atom (.int 7)),
      (.text "namespace", .atom (.text ""))]),
    (.text "spec", .mapping [(.text "seedJobs", .list [
      .mapping [(.text "id", .atom (.text "a")), (.text "targets", .atom .null),
        (.text "privateKey", .mapping [(.text "secretKeyRef",
          .mapping [(.text "name", .atom (.text "s"))])])],
      .mapping [(.text "id", .atom (.text "b")), (.text "privateKey", .list [])]]),
      (.text "backup", .atom (.text "AmazonS3"))])])

/-- The resource of this manifest. -/
def numberedJenkins : Jenkins :=
  ⟨"7", "default", [⟨"a", "", some ⟨"s", ""⟩, "", "", ""⟩, ⟨"b", "", none, "", "", ""⟩], .amazonS3⟩

/-- The document of the example is of the grammar, and this is what it means. -/
theorem jenkins_decides_numbered :
    IsJenkins numberedDocument ∧ JenkinsReads "default" numberedDocument numberedJenkins := by
  have hwritten : ∀ p < numberedDocument.contents.size,
      (numberedDocument.atPlace p).written?.isSome = true := by
    decide +kernel
  have hread : jenkins "default" numberedDocument = .ok numberedJenkins := by
    decide +kernel
  obtain ⟨haccepts, -, hmeans, -⟩ :=
    jenkins_decides (fun _ hw => hw.not_unwritable hwritten) "default"
  exact ⟨haccepts.mp ⟨_, hread⟩, (hmeans _).mp hread⟩

end

end Manifest

end JenkinsAdmission
