import JenkinsAdmission.Manifest.Secrets
import JenkinsAdmission.Proofs.Outcome
import JenkinsAdmission.Proofs.Value.Same

/-!
# Documents that matter

Secrets are loaded for a namespace. A document of another kind declares none, and neither does a
secret of another namespace matter, if it can be loaded at all.

* `Manifest.isRelevant` leaves out these documents.
* `Manifest.addDocument_of_not_relevant` is the step: such a document is loaded, and nothing changes
  in the namespace. `Manifest.foldlM_filter_relevant` is the run over a whole stream.
* `Manifest.secretsOf_sameIn` says that two streams in which the same documents matter have the same
  fault, or the same secrets in the namespace.
-/

namespace JenkinsAdmission.Manifest

section

variable [Platform]

/-! ## The same document is the same secret -/

variable {path ns : Text} {document document' : Value}

omit [Platform] in
/-- The kind of a document does not depend on its places. -/
theorem isSecret_eq (h : document.Same document') : isSecret document = isSecret document' := by
  rw [isSecret, isSecret]
  rcases Value.rel_cases (h.get? "kind") with ⟨hd, hd'⟩ | ⟨kind, kind', hd, hd', hsame⟩
  · rw [hd, hd']
  · rw [hd, hd', Option.any_some, Option.any_some, hsame.text?_eq]

theorem secretText_eq {v w : Value} (h : v.Same w) : secretText v = secretText w := by
  rw [secretText, secretText, h.isFalsy_eq, h.written_eq]

theorem dataBytes_eq {v w : Value} (h : v.Same w) : dataBytes v = dataBytes w := by
  rw [dataBytes, dataBytes, secretText_eq h]

theorem stringBytes_eq {v w : Value} (h : v.Same w) : stringBytes v = stringBytes w := by
  rw [stringBytes, stringBytes, secretText_eq h]

omit [Platform] in
theorem dataKey_eq {a b : Atom} (h : a.unmarked = b.unmarked) : dataKey a = dataKey b := by
  rw [dataKey, dataKey, Atom.written_eq h]

omit [Platform] in
theorem stringKey_eq {a b : Atom} (h : a.unmarked = b.unmarked) : stringKey a = stringKey b := by
  rw [stringKey, stringKey, Atom.written_eq h]

omit [Platform] in
/-- Entries that are the same in pairs are collected alike. -/
theorem collect_eq {ε : Type} {key : Atom → Except ε Text} {decode : Value → Except ε Bytes}
    {entries entries' : List (Atom × Value)} (h : Value.SameEntries entries entries')
    (hkey : ∀ a b : Atom, a.unmarked = b.unmarked → key a = key b)
    (hdecode : ∀ v w : Value, v.Same w → decode v = decode w) (data : SecretData) :
    SecretData.collect key decode entries data = SecretData.collect key decode entries' data := by
  unfold SecretData.collect
  induction h generalizing data with
  | nil => rfl
  | @cons e f entries entries' hef _ ih =>
    rw [List.foldlM_cons, List.foldlM_cons, hkey e.1 f.1 hef.1, hdecode e.2 f.2 hef.2]
    simp only [ih]

omit [Platform] in
/-- The same document has the same entries in a field, or the same defect. -/
theorem secretEntries_cases (h : document.Same document') (field : SecretField) :
    (∃ defect, secretEntries document field = .error defect ∧
        secretEntries document' field = .error defect) ∨
      ∃ entries entries', secretEntries document field = .ok entries ∧
        secretEntries document' field = .ok entries' ∧ Value.SameEntries entries entries' := by
  unfold secretEntries
  rcases Value.rel_cases (h.given? field.key) with ⟨hd, hd'⟩ | ⟨v, w, hd, hd', hsame⟩
  · rw [hd, hd']
    exact .inr ⟨[], [], rfl, rfl, .nil⟩
  · rw [hd, hd']
    rcases Value.rel_cases hsame.entries? with ⟨hv, hw⟩ | ⟨entries, entries', hv, hw, hentries⟩
    · simp only [hv, hw]
      exact .inl ⟨.illFormed field, rfl, rfl⟩
    · simp only [hv, hw]
      exact .inr ⟨entries, entries', rfl, rfl, hentries⟩

/-- The data of a secret do not depend on the places in its document. -/
theorem secretData_eq (h : document.Same document') :
    secretData path document = secretData path document' := by
  unfold secretData
  rcases secretEntries_cases h .data with ⟨defect, hd, hd'⟩ | ⟨encoded, encoded', he, he', hdata⟩
  · rw [hd, hd']
    rfl
  · rw [he, he', Except.mapError_ok, Except.mapError_ok, Except.ok_bind, Except.ok_bind,
      collect_eq hdata (fun a b => dataKey_eq) fun v w => dataBytes_eq]
    rcases secretEntries_cases h .stringData with
      ⟨defect, hd, hd'⟩ | ⟨plain, plain', hp, hp', hplain⟩
    · rw [hd, hd']
    · rw [hp, hp']
      simp only [Except.mapError_ok, Except.ok_bind,
        collect_eq hplain (fun a b => stringKey_eq) fun v w => stringBytes_eq]

omit [Platform] in
/-- The same document has the same metadata, or the same defect. -/
theorem secretMetadata_cases (h : document.Same document') :
    (∃ defect, secretMetadata document = .error defect ∧
        secretMetadata document' = .error defect) ∨
      ∃ metadata metadata' name name', secretMetadata document = .ok (metadata, name) ∧
        secretMetadata document' = .ok (metadata', name') ∧ metadata.Same metadata' ∧
        name.Same name' := by
  unfold secretMetadata
  rcases Value.rel_cases (h.given? SecretField.metadata.key) with
    ⟨hd, hd'⟩ | ⟨metadata, metadata', hd, hd', hmetadata⟩
  · rw [hd, hd']
    exact .inl ⟨.unnamed, rfl, rfl⟩
  · simp only [hd, hd', hmetadata.isMapping_eq]
    cases metadata'.isMapping with
    | false => exact .inl ⟨.illFormed .metadata, rfl, rfl⟩
    | true =>
      rcases Value.rel_cases (hmetadata.given? "name") with
        ⟨hm, hm'⟩ | ⟨name, name', hm, hm', hname⟩
      · simp only [hm, hm']
        exact .inl ⟨.unnamed, rfl, rfl⟩
      · simp only [hm, hm']
        exact .inr ⟨metadata, metadata', name, name', rfl, rfl, hmetadata, hname⟩

theorem namespaceOr_eq {metadata metadata' : Value} (h : metadata.Same metadata') :
    namespaceOr ns metadata = namespaceOr ns metadata' := by
  unfold namespaceOr
  rcases Value.rel_cases (h.given? "namespace") with ⟨hm, hm'⟩ | ⟨v, w, hm, hm', hsame⟩
  · rw [hm, hm']
  · simp only [hm, hm', Value.textOrBreak, hsame.written_eq]

/-- The secret that a document declares depends on the document alone. -/
theorem secret_eq (h : document.Same document') :
    secret path ns document = secret path ns document' := by
  unfold secret
  rcases secretMetadata_cases h with
    ⟨defect, hd, hd'⟩ | ⟨metadata, metadata', name, name', hm, hm', hmetadata, hname⟩
  · rw [hd, hd']
    rfl
  · rw [hm, hm']
    simp only [Except.mapError_ok, Except.ok_bind, secretData_eq h, namespaceOr_eq hmetadata,
      Value.textOrBreak, hname.written_eq]

/-- The same documents declare the same secrets. -/
theorem secretsOf_eq_of_same {documents documents' : List Value}
    (h : List.Forall₂ Value.Same documents documents') :
    secretsOf path ns documents = secretsOf path ns documents' := by
  unfold secretsOf
  generalize ([] : Secrets) = secrets
  induction h generalizing secrets with
  | nil => rfl
  | @cons document document' documents documents' hhead _ ih =>
    have hstep : addDocument path ns secrets document = addDocument path ns secrets document' := by
      rw [addDocument, addDocument, isSecret_eq hhead, secret_eq hhead]
    rw [List.foldlM_cons, List.foldlM_cons, hstep]
    simp only [ih]

/-! ## Documents that do not matter -/

/-- The namespace that the metadata of a document name. -/
def namedNamespace? (document : Value) : Option Value :=
  (document.given? SecretField.metadata.key).bind fun metadata => metadata.given? "namespace"

/-- Whether a document declares a secret of another namespace and can be loaded on its own. -/
def isForeign (path ns : Text) (document : Value) : Bool :=
  isSecret document && (secretsOf path ns [document]).isOk
    && (namedNamespace? document).any fun v => v.written? != some ns

/-- Whether a document matters for the secrets of a namespace. -/
def isRelevant (path ns : Text) (document : Value) : Bool :=
  isSecret document && !isForeign path ns document

omit [Platform] in
/-- The metadata of a secret are those that name its namespace. -/
theorem namedNamespace?_eq {metadata name : Value}
    (h : secretMetadata document = .ok (metadata, name)) :
    namedNamespace? document = metadata.given? "namespace" := by
  unfold secretMetadata at h
  cases hfield : document.given? SecretField.metadata.key with
  | none => simp [hfield] at h
  | some field =>
    rw [hfield] at h
    simp only at h
    split at h
    · split at h
      · cases h
      · obtain ⟨rfl, -⟩ := Prod.mk.inj (Except.ok.inj h)
        rw [namedNamespace?, hfield, Option.bind_some]
    · cases h

/-- A namespace that is named in other words is another one. -/
theorem ne_of_namespaceOr {metadata : Value} {t : Text} (h : namespaceOr ns metadata = .ok t)
    (hforeign : (metadata.given? "namespace").any (fun v => v.written? != some ns) = true) :
    t ≠ ns := by
  rintro rfl
  cases hgiven : metadata.given? "namespace" with
  | none => simp [hgiven] at hforeign
  | some v =>
    rw [hgiven, Option.any_some, bne_iff_ne] at hforeign
    simp only [namespaceOr, hgiven, Value.textOrBreak, Except.mapError_eq_ok_iff] at h
    exact hforeign (Value.written?_eq_some_iff.mpr h)

/-- A document that is loaded on its own has a secret, if it declares one. -/
theorem exists_secret_of_isOk (hsecret : isSecret document = true)
    (h : (secretsOf path ns [document]).isOk = true) :
    ∃ place data, secret path ns document = .ok (place, data) := by
  rw [secretsOf, List.foldlM_cons, addDocument, if_pos hsecret] at h
  cases hdeclared : secret path ns document with
  | error fault =>
    rw [hdeclared] at h
    cases h
  | ok entry => exact ⟨entry.1, entry.2, rfl⟩

/-- A secret of another namespace has its place there. -/
theorem exists_secret_of_isForeign (h : isForeign path ns document = true) :
    ∃ place data, secret path ns document = .ok (place, data) ∧ place.ns ≠ ns := by
  simp only [isForeign, Bool.and_eq_true] at h
  obtain ⟨⟨hsecret, hload⟩, hforeign⟩ := h
  obtain ⟨place, data, hdeclared⟩ := exists_secret_of_isOk hsecret hload
  refine ⟨place, data, hdeclared, ?_⟩
  simp only [secret, Except.bind_eq_ok_iff, Except.mapError_eq_ok_iff, Except.pure_eq,
    Except.ok.injEq, Prod.mk.injEq] at hdeclared
  obtain ⟨⟨metadata, name⟩, hmetadata, _, -, t, ht, _, -, rfl, -⟩ := hdeclared
  rw [namedNamespace?_eq hmetadata] at hforeign
  exact ne_of_namespaceOr ht hforeign

/-! ## Secrets of a namespace -/

/-- Two tables with the same secrets in a namespace. -/
def AgreeIn (ns : Text) (s t : Secrets) : Prop :=
  ∀ name, s.get? ⟨ns, name⟩ = t.get? ⟨ns, name⟩

omit [Platform] in
/-- A secret that is added to both sides keeps the agreement. -/
theorem AgreeIn.insert {s t : Secrets} (h : AgreeIn ns s t) (place : Coordinate)
    (data : SecretData) : AgreeIn ns (s.insert place data) (t.insert place data) := by
  intro name
  rw [Table.get?_insert, Table.get?_insert, h name]

omit [Platform] in
/-- A secret of another namespace changes nothing in this one. -/
theorem agreeIn_insert_of_ne {place : Coordinate} (hplace : place.ns ≠ ns) (s : Secrets)
    (data : SecretData) : AgreeIn ns (s.insert place data) s := by
  intro name
  rw [Table.get?_insert, if_neg]
  rintro rfl
  exact hplace rfl

/-- The same fault, or tables with the same secrets in a namespace. -/
inductive SameIn (ns : Text) :
    Except ManifestFault Secrets → Except ManifestFault Secrets → Prop
  /-- the same fault -/
  | failed (fault : ManifestFault) : SameIn ns (.error fault) (.error fault)
  /-- the same secrets -/
  | loaded {s t : Secrets} (hagree : AgreeIn ns s t) : SameIn ns (.ok s) (.ok t)

omit [Platform] in
theorem SameIn.symm {x y : Except ManifestFault Secrets} (h : SameIn ns x y) : SameIn ns y x := by
  cases h with
  | failed fault => exact .failed fault
  | loaded hagree => exact .loaded fun name => (hagree name).symm

omit [Platform] in
theorem SameIn.trans {x y z : Except ManifestFault Secrets} (hxy : SameIn ns x y)
    (hyz : SameIn ns y z) : SameIn ns x z := by
  cases hxy with
  | failed fault => exact hyz
  | loaded hagree =>
    cases hyz with
    | loaded hagree' => exact .loaded fun name => (hagree name).trans (hagree' name)

/-- A document that does not matter is loaded, and nothing changes in the namespace. -/
theorem addDocument_of_not_relevant (h : isRelevant path ns document = false)
    (secrets : Secrets) :
    ∃ secrets', addDocument path ns secrets document = .ok secrets' ∧
      AgreeIn ns secrets' secrets := by
  cases hsecret : isSecret document with
  | false =>
    refine ⟨secrets, ?_, fun name => rfl⟩
    rw [addDocument, hsecret, if_neg Bool.false_ne_true, Except.pure_eq]
  | true =>
    have hforeign : isForeign path ns document = true := by
      simpa [isRelevant, hsecret] using h
    obtain ⟨place, data, hdeclared, hplace⟩ := exists_secret_of_isForeign hforeign
    refine ⟨secrets.insert place data, ?_, agreeIn_insert_of_ne hplace secrets data⟩
    rw [addDocument, if_pos hsecret, hdeclared]
    rfl

/-- A document changes the same in tables that agree. -/
theorem addDocument_sameIn (path : Text) {s t : Secrets} (h : AgreeIn ns s t)
    (document : Value) :
    SameIn ns (addDocument path ns s document) (addDocument path ns t document) := by
  unfold addDocument
  split
  · cases secret path ns document with
    | error fault => exact .failed fault
    | ok entry => exact .loaded (h.insert entry.1 entry.2)
  · exact .loaded h

/-- Only the documents that matter need to be loaded. -/
theorem foldlM_filter_relevant (path : Text) (documents : List Value) {s t : Secrets}
    (h : AgreeIn ns s t) :
    SameIn ns (documents.foldlM (addDocument path ns) s)
      ((documents.filter (isRelevant path ns)).foldlM (addDocument path ns) t) := by
  -- the tables are only known to agree, since those of the left side have seen more documents
  induction documents generalizing s t with
  | nil => exact .loaded h
  | cons document rest ih =>
    rw [List.foldlM_cons]
    cases hrelevant : isRelevant path ns document with
    | false =>
      obtain ⟨s', hs', hagree⟩ := addDocument_of_not_relevant hrelevant s
      rw [List.filter_cons_of_neg (by simp [hrelevant]), hs', Except.ok_bind]
      exact ih fun name => (hagree name).trans (h name)
    | true =>
      rw [List.filter_cons_of_pos hrelevant, List.foldlM_cons]
      have hstep := addDocument_sameIn path h document
      generalize addDocument path ns s document = x at hstep
      generalize addDocument path ns t document = y at hstep
      cases hstep with
      | failed fault => exact .failed fault
      | loaded hagree => exact ih hagree

/-- Streams in which the same documents matter have the same secrets in the namespace, or the same
fault. -/
theorem secretsOf_sameIn {documents documents' : List Value}
    (h : List.Forall₂ Value.Same (documents.filter (isRelevant path ns))
      (documents'.filter (isRelevant path ns))) :
    SameIn ns (secretsOf path ns documents) (secretsOf path ns documents') := by
  have hempty : AgreeIn ns [] [] := fun name => rfl
  have hleft : SameIn ns (secretsOf path ns documents)
      (secretsOf path ns (documents.filter (isRelevant path ns))) :=
    foldlM_filter_relevant path documents hempty
  have hright : SameIn ns (secretsOf path ns documents')
      (secretsOf path ns (documents'.filter (isRelevant path ns))) :=
    foldlM_filter_relevant path documents' hempty
  rw [secretsOf_eq_of_same h] at hleft
  exact hleft.trans hright.symm

end

end JenkinsAdmission.Manifest
