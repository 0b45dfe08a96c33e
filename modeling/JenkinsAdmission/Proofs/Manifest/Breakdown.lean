import JenkinsAdmission.BuiltIn
import JenkinsAdmission.Proofs.Manifest.Ending
import JenkinsAdmission.Proofs.Manifest.Stream
import JenkinsAdmission.Proofs.Secret.Collected
import JenkinsAdmission.Proofs.Yaml.Breakdown

/-!
# Manifests that break down

Which manifests have an ending that nobody reports?

* A file is **illegible** when the reader of streams breaks down at its bytes. What our own reader
  breaks down at is one of a list of things that stand in the file
  (`FileState.Illegible.exists_culprit`).
* `Manifest.JenkinsUnwritable` and `Manifest.SecretUnwritable` describe the documents that break
  down: some text that has to be written holds an integer with too many digits or values too deep
  inside one another, or, among the plain texts of a secret, a lone surrogate that has no bytes. In
  a base64 text an integer with too many digits is rejected, and only depth breaks down.
* `Manifest.settled_iff` is about the three ways to load a file: each of them settles if and only if
  the file is legible and no such document is reached.
-/

namespace JenkinsAdmission

section

variable [Platform]

/-- A file at a path that cannot be read as a stream of documents, and not because the stream is
malformed: the reader breaks down. -/
inductive FileState.Illegible (path : Text) : FileState → Prop
  /-- the reader breaks down at the bytes of the file -/
  | broken {b : Bytes} {cause : Breakdown}
    (h : Platform.readStream path b = .error (.broken cause)) : Illegible path (.bytes b)

namespace Manifest

variable {α : Type}

/-! ## Files -/

/-- Reading documents breaks down at illegible files, and at no others. -/
theorem breaks_documents_iff {path : Text} {file : FileState} :
    Breaks (documents path file) ↔ file.Illegible path := by
  cases file with
  | missing => exact iff_of_false (not_breaks_rejected _) nofun
  | unreadable why => exact iff_of_false (not_breaks_rejected _) nofun
  | bytes b =>
    simp only [documents]
    cases hread : Platform.readStream path b with
    | ok values => exact iff_of_false (not_breaks_ok _) fun ⟨h⟩ => by simp [hread] at h
    | error fault =>
      cases fault with
      | malformed words =>
        exact iff_of_false (not_breaks_rejected _) fun ⟨h⟩ => by simp [hread] at h
      | broken cause => exact iff_of_true (breaks_broken cause) ⟨hread⟩

/-- What a stream may hold is settled, once it is legible. -/
theorem breaks_mapping?_iff {path : Text} {file : FileState} :
    Breaks (mapping? path file) ↔ file.Illegible path := by
  rw [mapping?, breaks_bind_iff_left, breaks_documents_iff]
  intro documents h
  rcases documents with _ | ⟨document, _ | ⟨other, rest⟩⟩
  · exact not_breaks_ok _ h
  · cases hmapping : document.isMapping with
    | true =>
      simp only [hmapping, if_true] at h
      exact not_breaks_ok _ h
    | false =>
      simp only [hmapping, Bool.false_eq_true, if_false] at h
      exact not_breaks_rejected _ h
  · exact not_breaks_rejected _ h

/-! ## Jenkins manifests -/

/-- A document with the parts of a Jenkins manifest that are looked at before its name is
written. -/
structure Outlined (document metadata name : Value) (spec : Option Value)
    (items : List (Option Value)) : Prop where
  /-- the kind is that of a Jenkins resource -/
  isJenkins : expectJenkins document = .ok ()
  /-- there are metadata with a name -/
  isNamed : Manifest.metadata document = .ok (metadata, name)
  /-- the specification is left out or a mapping -/
  isSpecified : specification? document = .ok spec
  /-- the seed jobs are left out or a list -/
  isListed : seedJobItems spec = .ok items

/-- A document that breaks down as a Jenkins manifest: a text that has to be written cannot be. -/
inductive JenkinsUnwritable (document : Value) : Prop
  /-- the kind of something that is no Jenkins resource -/
  | kind {kind : Value} (hgiven : document.get? "kind" = some kind) (hkind : kind.Unwritable)
  /-- the name -/
  | name {metadata name : Value} {spec : Option Value} {items : List (Option Value)}
    (h : Outlined document metadata name spec items) (hname : name.Unwritable)
  /-- the namespace -/
  | ns {metadata name ns : Value} {spec : Option Value} {items : List (Option Value)}
    (h : Outlined document metadata name spec items)
    (hgiven : metadata.given? "namespace" = some ns) (hns : ns.Unwritable)
  /-- the backup mode, after seed jobs that are well formed -/
  | backup {metadata name mode : Value} {spec : Option Value} {items : List (Option Value)}
    {jobs : List SeedJob} (h : Outlined document metadata name spec items)
    (hjobs : seedJobsFrom 0 items = .ok jobs)
    (hgiven : (spec.bind fun s => s.given? "backup") = some mode) (hmode : mode.Unwritable)

/-- The kind is only written where it is not the expected one. -/
theorem breaks_expectJenkins_iff {document : Value} :
    Breaks (expectJenkins document) ↔
      ∃ kind, document.get? "kind" = some kind ∧ kind.Unwritable := by
  unfold expectJenkins
  cases document.get? "kind" with
  | none => simp [jenkinsFault]
  | some kind =>
    simp only [Option.some.injEq, exists_eq_left']
    by_cases htext : kind.text? = some ("Jenkins" : Text)
    · rw [if_pos htext]
      refine iff_of_false (not_breaks_ok _) fun h => ?_
      rw [text?_of_unwritable h] at htext
      cases htext
    · rw [if_neg htext]
      exact (breaks_bind_iff_left fun _ => not_breaks_rejected _).trans breaks_textOrBreak_iff

/-- So is the backup mode. -/
theorem breaks_backupMode_iff {spec : Option Value} :
    Breaks (backupMode spec) ↔
      ∃ mode, (spec.bind fun s => s.given? "backup") = some mode ∧ mode.Unwritable := by
  unfold backupMode
  cases spec.bind fun s => s.given? "backup" with
  | none => simp
  | some mode =>
    simp only [Option.some.injEq, exists_eq_left']
    cases hsupported : mode.text?.bind BackupMode.ofName? with
    | some supported =>
      refine iff_of_false (not_breaks_ok _) fun h => ?_
      rw [text?_of_unwritable h] at hsupported
      cases hsupported
    | none =>
      exact (breaks_bind_iff_left fun _ => not_breaks_rejected _).trans breaks_textOrBreak_iff

omit [Platform] in
/-- A defect of a resource is reported. -/
theorem not_breaks_jenkinsFault (x : Except JenkinsDefect α) :
    ¬Breaks (x.mapError jenkinsFault) :=
  not_breaks_mapError fun defect => ⟨.jenkins defect, rfl⟩

omit [Platform] in
/-- Metadata without a name are reported. -/
theorem not_breaks_metadata (document : Value) : ¬Breaks (metadata document) := by
  unfold metadata
  cases document.given? "metadata" with
  | none => exact not_breaks_rejected _
  | some metadata =>
    cases hname : metadata.given? "name" with
    | none => simp [hname, jenkinsFault]
    | some name => simp [hname]

/-- An outlined document breaks down in its name, its namespace, or its backup mode. -/
theorem Outlined.breaks_jenkins_iff {document metadata name : Value} {spec : Option Value}
    {items : List (Option Value)} (h : Outlined document metadata name spec items)
    (defaultNamespace : Text) :
    Breaks (jenkins defaultNamespace document) ↔
      name.Unwritable ∨ Breaks (namespaceOr defaultNamespace metadata) ∨
        (∃ jobs, seedJobsFrom 0 items = .ok jobs) ∧ Breaks (backupMode spec) := by
  -- after the name and the namespace, only the backup mode is written
  have hrest : ∀ name ns, Breaks (do
      let seedJobs ← (seedJobsFrom 0 items).mapError jenkinsFault
      let backup ← backupMode spec
      pure (⟨name, ns, seedJobs, backup⟩ : Jenkins)) ↔
      (∃ jobs, seedJobsFrom 0 items = .ok jobs) ∧ Breaks (backupMode spec) := by
    intro name ns
    have hbackup : ∀ jobs, Breaks (do
        let backup ← backupMode spec
        pure (⟨name, ns, jobs, backup⟩ : Jenkins)) ↔ Breaks (backupMode spec) :=
      fun jobs => breaks_bind_iff_left fun _ => not_breaks_ok _
    rw [breaks_bind_iff]
    simp only [not_breaks_jenkinsFault, false_or, Except.mapError_eq_ok_iff, hbackup,
      exists_and_right]
  simp only [jenkins, h.isJenkins, h.isNamed, h.isSpecified, h.isListed, Except.mapError_ok,
    Except.ok_bind, ← breaks_textOrBreak_iff]
  -- the texts are looked at one after the other, and none of them is rejected
  exact (lenient_textOrBreak name).breaks_bind_iff fun name =>
    (lenient_namespaceOr defaultNamespace metadata).breaks_bind_iff (hrest name)

/-- A document that breaks down has a kind that does, or else is outlined. -/
theorem exists_outlined_of_breaks {document : Value} {defaultNamespace : Text}
    (h : Breaks (jenkins defaultNamespace document)) :
    Breaks (expectJenkins document) ∨
      ∃ metadata name spec items, Outlined document metadata name spec items := by
  simp only [jenkins, breaks_bind_iff, not_breaks_metadata, not_breaks_jenkinsFault, false_or,
    Except.mapError_eq_ok_iff] at h
  rcases h with hkind | ⟨_, hkind, ⟨metadata, name⟩, hmetadata, spec, hspec, items, hitems, -⟩
  · exact .inl hkind
  · exact .inr ⟨metadata, name, spec, items, hkind, hmetadata, hspec, hitems⟩

/-- A document breaks down as a resource at a text that has to be written and cannot be. -/
theorem breaks_jenkins_iff {document : Value} {defaultNamespace : Text} :
    Breaks (jenkins defaultNamespace document) ↔ JenkinsUnwritable document := by
  constructor
  · intro hbreaks
    rcases exists_outlined_of_breaks hbreaks with hkind | ⟨metadata, name, spec, items, h⟩
    · obtain ⟨kind, hgiven, hkind⟩ := breaks_expectJenkins_iff.mp hkind
      exact .kind hgiven hkind
    · rcases (h.breaks_jenkins_iff defaultNamespace).mp hbreaks with
        hname | hns | ⟨⟨jobs, hjobs⟩, hbackup⟩
      · exact .name h hname
      · obtain ⟨ns, hgiven, hns⟩ := breaks_namespaceOr_iff.mp hns
        exact .ns h hgiven hns
      · obtain ⟨mode, hgiven, hmode⟩ := breaks_backupMode_iff.mp hbackup
        exact .backup h hjobs hgiven hmode
  · intro hdocument
    cases hdocument with
    | kind hgiven hkind =>
      exact breaks_bind_iff.mpr (.inl (breaks_expectJenkins_iff.mpr ⟨_, hgiven, hkind⟩))
    | name h hname => exact (h.breaks_jenkins_iff _).mpr (.inl hname)
    | ns h hgiven hns =>
      exact (h.breaks_jenkins_iff _).mpr (.inr (.inl (breaks_namespaceOr_iff.mpr ⟨_, hgiven, hns⟩)))
    | backup h hjobs hgiven hmode =>
      exact (h.breaks_jenkins_iff _).mpr
        (.inr (.inr ⟨⟨_, hjobs⟩, breaks_backupMode_iff.mpr ⟨_, hgiven, hmode⟩⟩))

/-- A resource is not loaded from a file that is illegible or whose document breaks down. -/
theorem breaks_loadJenkins_iff {defaultNamespace path : Text} {file : FileState} :
    Breaks (loadJenkins defaultNamespace path file) ↔
      file.Illegible path ∨
        ∃ document, mapping? path file = .ok (some document) ∧ JenkinsUnwritable document := by
  rw [loadJenkins, breaks_bind_iff, breaks_mapping?_iff]
  refine or_congr_right ⟨?_, ?_⟩
  · rintro ⟨document, hdocument, h⟩
    cases document with
    | none => exact absurd h (not_breaks_rejected _)
    | some document => exact ⟨document, hdocument, breaks_jenkins_iff.mp h⟩
  · rintro ⟨document, hdocument, h⟩
    exact ⟨some document, hdocument, breaks_jenkins_iff.mpr h⟩

/-! ## Secrets -/

/-- An entry of plain texts that cannot be taken as bytes under a key. -/
inductive EntryUnwritable (entry : Atom × Value) : Prop
  /-- the value has no text -/
  | value {cause : Breakdown} (h : secretText entry.2 = .error cause)
  /-- the text of the value has no bytes -/
  | unencodable {t : Text} (h : secretText entry.2 = .ok t) (ht : t.utf8? = none)
  /-- the key has no text -/
  | key {cause : Breakdown} (h : entry.1.written = .error cause)

/-- A document with the parts of a secret that are looked at before its plain texts are encoded. -/
structure SecretOutlined (document metadata name : Value) (data : SecretData)
    (plain : List (Atom × Value)) : Prop where
  /-- there are metadata with a name -/
  isNamed : secretMetadata document = .ok (metadata, name)
  /-- the base64 texts can be decoded -/
  isDecoded : ∃ encoded, secretEntries document .data = .ok encoded ∧
    SecretData.collect dataKey dataBytes encoded [] = .ok data
  /-- the plain texts are left out or a mapping -/
  isPlain : secretEntries document .stringData = .ok plain

/-- A document that breaks down as a secret: a text that has to be written cannot be. -/
inductive SecretUnwritable (document : Value) : Prop
  /-- a base64 text that is too deep, after others that can be decoded -/
  | data {metadata name : Value} {data : SecretData} {before after : List (Atom × Value)}
    {e : Atom × Value} (hnamed : secretMetadata document = .ok (metadata, name))
    (hencoded : secretEntries document .data = .ok (before ++ e :: after))
    (hbefore : SecretData.collect dataKey dataBytes before [] = .ok data)
    (hdeep : secretText e.2 = .error .tooDeep)
  /-- an entry of plain texts -/
  | entry {metadata name : Value} {data : SecretData} {plain : List (Atom × Value)}
    {e : Atom × Value} (h : SecretOutlined document metadata name data plain) (he : e ∈ plain)
    (hentry : EntryUnwritable e)
  /-- the namespace -/
  | ns {metadata name ns : Value} {data : SecretData} {plain : List (Atom × Value)}
    (h : SecretOutlined document metadata name data plain)
    (hgiven : metadata.given? "namespace" = some ns) (hns : ns.Unwritable)
  /-- the name -/
  | name {metadata name : Value} {data : SecretData} {plain : List (Atom × Value)}
    (h : SecretOutlined document metadata name data plain) (hname : name.Unwritable)

omit [Platform] in
/-- A defect of a secret is reported. -/
theorem not_breaks_secretFault {path : Text} (x : Except SecretDefect α) :
    ¬Breaks (x.mapError (secretFault path)) :=
  not_breaks_mapError fun defect => ⟨.secret path defect, rfl⟩

/-! ### Base64 texts -/

theorem secretText_eq_error_iff {v : Value} {cause : Breakdown} :
    secretText v = .error cause ↔ v.isFalsy = false ∧ v.written = .error cause := by
  unfold secretText
  cases v.isFalsy <;> simp

/-- A base64 text breaks down only when it is too deep. -/
theorem dataBytes_eq_broken_iff {v : Value} {cause : Breakdown} :
    dataBytes v = .error (.broken cause) ↔
      cause = .tooDeep ∧ secretText v = .error .tooDeep := by
  unfold dataBytes
  cases htext : secretText v with
  | ok t =>
    simp only [dataText, Except.ok_bind, Except.mapError_eq_error_iff]
    exact iff_of_false (fun ⟨_, _, h⟩ => nomatch h) (fun h => nomatch h.2)
  | error found =>
    rcases Value.isWritingCause_written (secretText_eq_error_iff.mp htext).2 with rfl | rfl
    · exact iff_of_false (fun h => nomatch h) (fun h => nomatch h.2)
    · simp [dataText, eq_comm]

omit [Platform] in
/-- A key of a base64 text is rejected, and never breaks down. -/
theorem dataKey_ne_broken (k : Atom) (cause : Breakdown) : dataKey k ≠ .error (.broken cause) := by
  rw [dataKey]
  cases hkey : k.written with
  | ok t => exact nofun
  | error found =>
    rw [Atom.cause_of_written hkey]
    exact nofun

/-- The base64 texts break down at the first of them that does. -/
theorem breaks_encoded_iff {path : Text} {encoded : List (Atom × Value)} :
    Breaks ((SecretData.collect dataKey dataBytes encoded []).mapError (dataFault path)) ↔
      ∃ before e after, encoded = before ++ e :: after ∧
        (∃ data, SecretData.collect dataKey dataBytes before [] = .ok data) ∧
        secretText e.2 = .error .tooDeep := by
  have hfault : ∀ fault cause, dataFault path fault = .broken cause ↔ fault = .broken cause := by
    intro fault cause
    cases fault <;> simp [dataFault, secretFault]
  -- the value of an entry is looked at first, and its key never breaks down
  have hwrite : ∀ e : Atom × Value, (∃ cause,
      SecretData.write dataKey dataBytes e = .error (.broken cause)) ↔
        secretText e.2 = .error .tooDeep := by
    intro e
    simp only [SecretData.write, Except.bind_eq_error_iff, dataBytes_eq_broken_iff,
      dataKey_ne_broken, Except.pure_eq, reduceCtorEq, and_false, exists_false, or_false,
      exists_and_right, exists_eq, true_and]
  simp only [Breaks, Except.mapError_eq_error_iff, hfault, exists_eq_right,
    SecretData.collect_eq_error_iff, SecretData.exists_collect_iff]
  constructor
  · rintro ⟨cause, before, e, after, hencoded, hbefore, he⟩
    exact ⟨before, e, after, hencoded, hbefore, (hwrite e).mp ⟨cause, he⟩⟩
  · rintro ⟨before, e, after, hencoded, hbefore, he⟩
    obtain ⟨cause, hcause⟩ := (hwrite e).mpr he
    exact ⟨cause, before, e, after, hencoded, hbefore, hcause⟩

/-! ### Plain texts -/

/-- Plain texts are never rejected. -/
theorem lenient_stringBytes (v : Value) : Lenient (stringBytes v) := by
  unfold stringBytes Lenient
  cases secretText v with
  | error cause => exact .inl (breaks_broken cause)
  | ok t =>
    simp only [Except.mapError_ok, Except.ok_bind]
    cases t.utf8? with
    | none => exact .inl (breaks_broken _)
    | some bytes => exact .inr ⟨bytes, rfl⟩

omit [Platform] in
theorem lenient_stringKey (k : Atom) : Lenient (stringKey k) := by
  unfold stringKey Lenient
  cases k.written with
  | error cause => exact .inl (breaks_broken cause)
  | ok t => exact .inr ⟨t, rfl⟩

/-- An entry breaks down in its value or in its key. -/
theorem entryUnwritable_iff {e : Atom × Value} :
    EntryUnwritable e ↔ Breaks (stringBytes e.2) ∨ Breaks (stringKey e.1) := by
  unfold stringBytes stringKey
  constructor
  · intro h
    cases h with
    | value h => simp [h]
    | unencodable h ht => simp [h, ht]
    | key h => simp [h]
  · rintro (h | h)
    · cases htext : secretText e.2 with
      | error cause => exact .value htext
      | ok t =>
        cases hbytes : t.utf8? with
        | none => exact .unencodable htext hbytes
        | some bytes => simp [htext, hbytes] at h
    · cases htext : e.1.written with
      | error cause => exact .key htext
      | ok t => simp [htext] at h

/-- So the plain texts as a whole are never rejected. -/
theorem lenient_collect (plain : List (Atom × Value)) (data : SecretData) :
    Lenient (SecretData.collect stringKey stringBytes plain data) := by
  induction plain generalizing data with
  | nil => exact .inr ⟨data, rfl⟩
  | cons e plain ih =>
    rw [SecretData.collect_cons]
    exact (lenient_stringBytes e.2).bind fun bytes => (lenient_stringKey e.1).bind fun k => ih _

/-- The plain texts break down if any of them does, whatever the others are. -/
theorem breaks_collect_iff {plain : List (Atom × Value)} (data : SecretData) :
    Breaks (SecretData.collect stringKey stringBytes plain data) ↔
      ∃ e ∈ plain, EntryUnwritable e := by
  induction plain generalizing data with
  | nil => exact iff_of_false (not_breaks_ok data) nofun
  | cons e plain ih =>
    simp only [List.mem_cons, exists_eq_or_imp]
    rw [SecretData.collect_cons, entryUnwritable_iff, or_assoc]
    exact (lenient_stringBytes e.2).breaks_bind_iff fun bytes =>
      (lenient_stringKey e.1).breaks_bind_iff fun k => ih _

/-- An outlined document breaks down in its plain texts, its namespace, or its name. -/
theorem SecretOutlined.breaks_secret_iff {document metadata name : Value} {data : SecretData}
    {plain : List (Atom × Value)} (h : SecretOutlined document metadata name data plain)
    (path defaultNamespace : Text) :
    Breaks (secret path defaultNamespace document) ↔
      (∃ e ∈ plain, EntryUnwritable e) ∨ Breaks (namespaceOr defaultNamespace metadata) ∨
        name.Unwritable := by
  obtain ⟨encoded, hencoded, hdata⟩ := h.isDecoded
  have hname : ∀ data ns, Breaks (do
      let name ← name.textOrBreak
      pure ((⟨ns, name⟩, data) : Coordinate × SecretData)) ↔ name.Unwritable := by
    intro data ns
    exact (breaks_bind_iff_left fun _ => not_breaks_ok _).trans breaks_textOrBreak_iff
  simp only [secret, secretData, h.isNamed, hencoded, hdata, h.isPlain, Except.mapError_ok,
    Except.ok_bind, ← breaks_collect_iff data]
  exact (lenient_collect plain data).breaks_bind_iff fun data =>
    (lenient_namespaceOr defaultNamespace metadata).breaks_bind_iff (hname data)

/-- A document that breaks down as a secret does so in its base64 texts, or else is outlined. -/
theorem exists_secretOutlined_of_breaks {path defaultNamespace : Text} {document : Value}
    (h : Breaks (secret path defaultNamespace document)) :
    (∃ metadata name encoded, secretMetadata document = .ok (metadata, name) ∧
      secretEntries document .data = .ok encoded ∧
      Breaks ((SecretData.collect dataKey dataBytes encoded []).mapError (dataFault path))) ∨
    ∃ metadata name data plain, SecretOutlined document metadata name data plain := by
  simp only [secret, breaks_bind_iff, not_breaks_secretFault, false_or,
    Except.mapError_eq_ok_iff] at h
  obtain ⟨⟨metadata, name⟩, hnamed, hrest⟩ := h
  rcases hrest with hbreaks | ⟨data, hok, -⟩
  · simp only [secretData, breaks_bind_iff, not_breaks_secretFault, false_or,
      Except.mapError_eq_ok_iff] at hbreaks
    obtain ⟨encoded, hencoded, hbreaks | ⟨data, hcollect, plain, hplain, -⟩⟩ := hbreaks
    · exact .inl ⟨metadata, name, encoded, hnamed, hencoded, hbreaks⟩
    · exact .inr ⟨metadata, name, data, plain, hnamed, ⟨encoded, hencoded, hcollect⟩, hplain⟩
  · simp only [secretData, Except.bind_eq_ok_iff, Except.mapError_eq_ok_iff] at hok
    obtain ⟨encoded, hencoded, data, hcollect, plain, hplain, -⟩ := hok
    exact .inr ⟨metadata, name, data, plain, hnamed, ⟨encoded, hencoded, hcollect⟩, hplain⟩

/-- A document breaks down as a secret at a text that has to be written and cannot be. -/
theorem breaks_secret_iff {path defaultNamespace : Text} {document : Value} :
    Breaks (secret path defaultNamespace document) ↔ SecretUnwritable document := by
  constructor
  · intro hbreaks
    rcases exists_secretOutlined_of_breaks hbreaks with
      ⟨metadata, name, encoded, hnamed, hencoded, hdata⟩ | ⟨metadata, name, data, plain, h⟩
    · obtain ⟨before, e, after, rfl, ⟨data, hbefore⟩, hdeep⟩ := breaks_encoded_iff.mp hdata
      exact .data hnamed hencoded hbefore hdeep
    · rcases (h.breaks_secret_iff path defaultNamespace).mp hbreaks with
        ⟨e, he, hentry⟩ | hns | hname
      · exact .entry h he hentry
      · obtain ⟨ns, hgiven, hns⟩ := breaks_namespaceOr_iff.mp hns
        exact .ns h hgiven hns
      · exact .name h hname
  · intro hdocument
    cases hdocument with
    | data hnamed hencoded hbefore hdeep =>
      simp only [secret, secretData, hnamed, hencoded, Except.mapError_ok, Except.ok_bind]
      refine breaks_bind_iff.mpr (.inl (breaks_bind_iff.mpr (.inl ?_)))
      exact breaks_encoded_iff.mpr ⟨_, _, _, rfl, ⟨_, hbefore⟩, hdeep⟩
    | entry h he hentry => exact (h.breaks_secret_iff _ _).mpr (.inl ⟨_, he, hentry⟩)
    | ns h hgiven hns =>
      exact (h.breaks_secret_iff _ _).mpr
        (.inr (.inl (breaks_namespaceOr_iff.mpr ⟨_, hgiven, hns⟩)))
    | name h hname => exact (h.breaks_secret_iff _ _).mpr (.inr (.inr hname))

/-- Only documents of secrets can break down as secrets. -/
theorem breaks_declared?_iff {path defaultNamespace : Text} {document : Value} :
    Breaks (declared? path defaultNamespace document) ↔
      isSecret document = true ∧ SecretUnwritable document := by
  unfold declared?
  cases isSecret document with
  | true => simp [breaks_map_iff, breaks_secret_iff]
  | false => simp

/-- The secrets of documents break down at a document that does, if nothing before is rejected. -/
theorem breaks_secretsOf_iff {path defaultNamespace : Text} {documents : List Value} :
    Breaks (secretsOf path defaultNamespace documents) ↔
      ∃ before document after, documents = before ++ document :: after ∧
        (∃ secrets, secretsOf path defaultNamespace before = .ok secrets) ∧
        isSecret document = true ∧ SecretUnwritable document := by
  simp only [exists_secretsOf_iff]
  rw [secretsOf_eq, breaks_map_iff, breaks_mapM_iff]
  simp only [breaks_declared?_iff]

/-- Secrets are not loaded from a file that is illegible or has such a document in the way. -/
theorem breaks_loadSecrets_iff {defaultNamespace path : Text} {file : FileState} :
    Breaks (loadSecrets defaultNamespace path file) ↔
      file.Illegible path ∨ ∃ before document after,
        documents path file = .ok (before ++ document :: after) ∧
        (∃ secrets, secretsOf path defaultNamespace before = .ok secrets) ∧
        isSecret document = true ∧ SecretUnwritable document := by
  simp only [loadSecrets, breaks_bind_iff, breaks_documents_iff, breaks_secretsOf_iff]
  refine or_congr_right ⟨?_, ?_⟩
  · rintro ⟨_, hdocuments, before, document, after, rfl, hrest⟩
    exact ⟨before, document, after, hdocuments, hrest⟩
  · rintro ⟨before, document, after, hdocuments, hrest⟩
    exact ⟨_, hdocuments, before, document, after, rfl, hrest⟩

/-- **Loading a manifest ends with a value or with a rejection** exactly when the file is legible
and no document is reached that has to be written and cannot be. A stream of secrets is read up to
the first document at fault. -/
theorem settled_iff (defaultNamespace path : Text) (file : FileState) :
    (Settled (mapping? path file) ↔ ¬file.Illegible path) ∧
    (Settled (loadJenkins defaultNamespace path file) ↔
      ¬file.Illegible path ∧ ∀ document, mapping? path file = .ok (some document) →
        ¬JenkinsUnwritable document) ∧
    (Settled (loadSecrets defaultNamespace path file) ↔
      ¬file.Illegible path ∧ ∀ before document after,
        documents path file = .ok (before ++ document :: after) →
        (∃ secrets, secretsOf path defaultNamespace before = .ok secrets) →
        isSecret document = true → ¬SecretUnwritable document) := by
  simp only [settled_iff_not_breaks, breaks_mapping?_iff, breaks_loadJenkins_iff,
    breaks_loadSecrets_iff, not_or, not_exists, not_and, forall_exists_index, and_self]

end Manifest

end

section

open scoped BuiltIn

/-- A file that our own reader breaks down at has something in it that breaks the reader down. -/
theorem FileState.Illegible.exists_culprit {path : Text} {file : FileState}
    (h : file.Illegible path) : ∃ b cause, file = .bytes b ∧ Yaml.Culprit b cause := by
  cases h with
  | broken hread =>
    obtain ⟨fault, hfault, hcause⟩ := Except.mapError_eq_error_iff.mp hread
    cases fault with
    | malformed rule => cases hcause
    | broken found => exact ⟨_, found, rfl, Yaml.culprit_of_read hfault⟩

end

namespace Manifest

open scoped BuiltIn

/-- Bytes that are no UTF-8 break every load down, and so does a plain text with a lone surrogate
when the secrets of its file are loaded. -/
theorem not_settled_illegible :
    ¬Settled (mapping? "m.yaml" (.bytes [0xff])) ∧
    ¬Settled (loadJenkins "default" "m.yaml" (.bytes [0xff])) ∧
    ¬Settled (loadSecrets "default" "m.yaml" (.bytes [0xff])) ∧
    ¬Settled (loadSecrets "default" "m.yaml" (.bytes (Bytes.ofString
      "kind: Secret\nmetadata: \x7bname: s\x7d\nstringData: \x7bk: \"\\ud800\"\x7d\n"))) := by
  simp only [settled_iff_not_breaks, not_not]
  refine ⟨⟨.undecodableBytes, rfl⟩, ⟨.undecodableBytes, rfl⟩, ⟨.undecodableBytes, rfl⟩,
    ⟨.unencodableText, ?_⟩⟩
  decide +kernel

end Manifest

end JenkinsAdmission
