import JenkinsAdmission.BuiltIn
import JenkinsAdmission.Proofs.Manifest.Breakdown
import JenkinsAdmission.Proofs.Manifest.Composition

/-!
# The kinds of the fields of secrets

The metadata, the data and the string data of a secret have to be mappings. Is every other value
found out?

* `Manifest.Misfit` is about a field that holds something else, and `Manifest.KindsChecked` says
  that a stream with such a field is rejected.
* What counts as absent is taken for left out before its kind is looked at, so an empty list passes
  (`Manifest.exists_secretEntries_iff`). `Manifest.Overlooked` are the streams with such a misfit,
  and those that break down before they get to one.
* `Manifest.kindsChecked_iff` says that there are no others.
-/

namespace JenkinsAdmission.Manifest

section

variable [Platform]

/-! ## Kinds -/

/-- The fields with the contents of a secret. -/
def dataFields : List SecretField :=
  [.data, .stringData]

/-- The metadata of a document are a mapping, with a name that counts. -/
def Named (document : Value) : Prop :=
  ∃ metadata name, document.get? "metadata" = some metadata ∧ metadata.isMapping = true ∧
    metadata.get? "name" = some name ∧ name.isFalsy = false

/-- A field of a secret holds something that is neither null nor a mapping. -/
def Misfit (document : Value) (field : SecretField) : Prop :=
  ∃ v, document.get? field.key = some v ∧ v.isNull = false ∧ v.isMapping = false

/-- The kinds of the fields of secrets are checked: the secrets of a stream that is loaded have a
name and no misfits, and a stream with a misfit is rejected. -/
structure KindsChecked (path defaultNamespace : Text) (documents : List Value) : Prop where
  /-- the secrets of a stream that is loaded -/
  loaded : ∀ secrets, secretsOf path defaultNamespace documents = .ok secrets →
    ∀ document ∈ documents, isSecret document = true →
      Named document ∧ ∀ field ∈ dataFields, ¬Misfit document field
  /-- a stream with a misfit -/
  rejected : ∀ document ∈ documents, isSecret document = true →
    ∀ field ∈ dataFields, Misfit document field →
      ∃ defect, secretsOf path defaultNamespace documents = .error (.rejected defect)

/-- A stream with a misfit that is not found out. -/
inductive Overlooked (path defaultNamespace : Text) (documents : List Value) : Prop
  /-- the misfit counts as absent, and all secrets are well formed in every other way -/
  | absent {document v : Value} {field : SecretField} (hmem : document ∈ documents)
    (hsecret : isSecret document = true) (hfield : field ∈ dataFields)
    (hvalue : document.get? field.key = some v) (hnull : v.isNull = false)
    (hmapping : v.isMapping = false) (hfalsy : v.isFalsy = true)
    (hformed : ∀ document ∈ documents, isSecret document = true →
      ∃ c data, DeclaresAt path defaultNamespace document c data)
  /-- the stream breaks down at a secret of which a text has to be written and cannot be -/
  | unreached {document broken : Value} {field : SecretField} {before after : List Value}
    (hmem : document ∈ documents) (hsecret : isSecret document = true)
    (hfield : field ∈ dataFields) (hmisfit : Misfit document field)
    (hdocuments : documents = before ++ broken :: after)
    (hformed : ∀ document ∈ before, isSecret document = true →
      ∃ c data, DeclaresAt path defaultNamespace document c data)
    (hbroken : isSecret broken = true) (hunwritable : SecretUnwritable broken)

variable {path defaultNamespace : Text} {documents : List Value} {document : Value}
  {field : SecretField}

/-! ## What a secret that is loaded holds -/

omit [Platform] in
/-- A field has entries if it is left out or a mapping, and whatever counts as absent is left
out. -/
theorem exists_secretEntries_iff :
    (∃ entries, secretEntries document field = .ok entries) ↔
      ∀ v, document.get? field.key = some v → v.isFalsy = true ∨ v.isMapping = true := by
  unfold secretEntries
  cases hget : document.get? field.key with
  | none => simp [Value.given?_of_get?_eq_none hget]
  | some v =>
    cases hfalsy : v.isFalsy with
    | true => simp [Value.given?_of_isFalsy hget hfalsy, hfalsy]
    | false =>
      simp only [Value.given?_of_not_isFalsy hget hfalsy, Option.some.injEq, forall_eq', hfalsy,
        Bool.false_eq_true, false_or, Value.isMapping]
      cases v.entries? <;> simp

omit [Platform] in
/-- The metadata that the reader accepts have a name. -/
theorem named_of_secretMetadata {metadata name : Value}
    (h : secretMetadata document = .ok (metadata, name)) : Named document := by
  unfold secretMetadata at h
  split at h
  · cases h
  · rename_i m hmetadata
    split at h
    · rename_i hmapping
      split at h
      · cases h
      · rename_i n hname
        obtain ⟨hname, hgiven⟩ := Value.given?_eq_some_iff.mp hname
        exact ⟨m, n, (Value.given?_eq_some_iff.mp hmetadata).1, hmapping, hname, hgiven⟩
    · cases h

/-- A secret that is well formed has a name, and what its fields hold is a mapping or counts as
absent. -/
theorem DeclaresAt.holds {c : Coordinate} {data : SecretData}
    (h : DeclaresAt path defaultNamespace document c data) :
    Named document ∧ ∀ field ∈ dataFields, ∀ v, document.get? field.key = some v →
      v.isFalsy = true ∨ v.isMapping = true := by
  obtain ⟨metadata, name, hnamed, -⟩ := h.place
  have hdecoded := h.decoded
  simp only [secretData, Except.bind_eq_ok_iff, Except.mapError_eq_ok_iff] at hdecoded
  obtain ⟨encoded, hencoded, -, -, plain, hplain, -⟩ := hdecoded
  refine ⟨named_of_secretMetadata hnamed, ?_⟩
  simp only [dataFields, List.forall_mem_cons]
  exact ⟨exists_secretEntries_iff.mp ⟨encoded, hencoded⟩,
    exists_secretEntries_iff.mp ⟨plain, hplain⟩, List.forall_mem_nil _⟩

/-- Every secret that was loaded is named, and its data are mappings or falsy. -/
theorem holds_of_secretsOf {secrets : Secrets}
    (h : secretsOf path defaultNamespace documents = .ok secrets) (hmem : document ∈ documents)
    (hsecret : isSecret document = true) :
    Named document ∧ ∀ field ∈ dataFields, ∀ v, document.get? field.key = some v →
      v.isFalsy = true ∨ v.isMapping = true := by
  obtain ⟨c, data, hdeclares⟩ := exists_secretsOf_iff_forall.mp ⟨secrets, h⟩ document hmem hsecret
  exact hdeclares.holds

/-! ## The theorem -/

/-- A misfit that does not lead to a rejection is overlooked. -/
theorem overlooked_of_not_rejected (hmem : document ∈ documents)
    (hsecret : isSecret document = true) (hfield : field ∈ dataFields)
    (hmisfit : Misfit document field)
    (h : ¬∃ defect, secretsOf path defaultNamespace documents = .error (.rejected defect)) :
    Overlooked path defaultNamespace documents := by
  cases hload : secretsOf path defaultNamespace documents with
  | ok secrets =>
    obtain ⟨v, hvalue, hnull, hmapping⟩ := hmisfit
    -- a secret that was loaded has a falsy value there, since it is no mapping
    have hfalsy := ((holds_of_secretsOf hload hmem hsecret).2 field hfield v hvalue).resolve_right
      (by simp [hmapping])
    exact .absent hmem hsecret hfield hvalue hnull hmapping hfalsy
      (exists_secretsOf_iff_forall.mp ⟨secrets, hload⟩)
  | error fault =>
    cases fault with
    | rejected defect => exact absurd ⟨defect, hload⟩ h
    | broken cause =>
      -- some document before breaks down, and this one is not reached
      obtain ⟨before, broken, after, hdocuments, hbefore, hbroken, hunwritable⟩ :=
        breaks_secretsOf_iff.mp ⟨cause, hload⟩
      exact .unreached hmem hsecret hfield hmisfit hdocuments
        (exists_secretsOf_iff_forall.mp hbefore) hbroken hunwritable

/-- Wherever the reader overlooks the kind of a field, the claim about kinds fails. -/
theorem Overlooked.not_kindsChecked (h : Overlooked path defaultNamespace documents) :
    ¬KindsChecked path defaultNamespace documents := by
  intro hchecked
  cases h with
  | absent hmem hsecret hfield hvalue hnull hmapping hfalsy hformed =>
    obtain ⟨secrets, hload⟩ := exists_secretsOf_iff_forall.mpr hformed
    exact (hchecked.loaded secrets hload _ hmem hsecret).2 _ hfield ⟨_, hvalue, hnull, hmapping⟩
  | unreached hmem hsecret hfield hmisfit hdocuments hformed hbroken hunwritable =>
    obtain ⟨defect, hrejected⟩ := hchecked.rejected _ hmem hsecret _ hfield hmisfit
    obtain ⟨cause, hbreaks⟩ := breaks_secretsOf_iff.mpr
      ⟨_, _, _, hdocuments, exists_secretsOf_iff_forall.mpr hformed, hbroken, hunwritable⟩
    rw [hrejected] at hbreaks
    cases hbreaks

/-- **The kind of a field is checked unless its value counts as absent.** A misfit is found out
unless it is overlooked. Whatever the stream, a secret that is loaded has a name, and its data and
string data are mappings or count as absent. -/
theorem kindsChecked_iff (path defaultNamespace : Text) (documents : List Value) :
    (KindsChecked path defaultNamespace documents ↔
      ¬Overlooked path defaultNamespace documents) ∧
    ∀ secrets, secretsOf path defaultNamespace documents = .ok secrets →
      ∀ document ∈ documents, isSecret document = true →
        Named document ∧ ∀ field ∈ dataFields, ∀ v, document.get? field.key = some v →
          v.isFalsy = true ∨ v.isMapping = true := by
  refine ⟨⟨fun hchecked hoverlooked => hoverlooked.not_kindsChecked hchecked, fun h => ?_⟩,
    fun secrets hload document hmem hsecret => holds_of_secretsOf hload hmem hsecret⟩
  have hrejected : ∀ document ∈ documents, isSecret document = true → ∀ field ∈ dataFields,
      Misfit document field →
      ∃ defect, secretsOf path defaultNamespace documents = .error (.rejected defect) := by
    -- if it were not rejected, it would be overlooked
    intro document hmem hsecret field hfield hmisfit
    by_contra hnot
    exact h (overlooked_of_not_rejected hmem hsecret hfield hmisfit hnot)
  refine ⟨fun secrets hload document hmem hsecret =>
    ⟨(holds_of_secretsOf hload hmem hsecret).1, fun field hfield hmisfit => ?_⟩, hrejected⟩
  obtain ⟨defect, hfault⟩ := hrejected document hmem hsecret field hfield hmisfit
  rw [hload] at hfault
  cases hfault

end

section

open scoped BuiltIn

/-- A secret whose data are an empty list. -/
def emptyListSecret : Value :=
  Tree.toValue (.mapping [(.text "kind", .atom (.text "Secret")),
    (.text "metadata", .mapping [(.text "name", .atom (.text "s"))]),
    (.text "data", .list [])])

/-- An empty list is not found out: the secret is loaded without data, from a document and from a
file. -/
theorem not_kindsChecked_emptyList :
    secretsOf "m.yaml" "default" [emptyListSecret] = .ok [(⟨"default", "s"⟩, [])] ∧
    Misfit emptyListSecret .data ∧
    ¬KindsChecked "m.yaml" "default" [emptyListSecret] ∧
    loadSecrets "default" "m.yaml" (.bytes (Bytes.ofString
      "kind: Secret\nmetadata: \x7bname: s\x7d\ndata: []\n")) =
        .ok [(⟨"default", "s"⟩, [])] := by
  have hload : secretsOf "m.yaml" "default" [emptyListSecret] = .ok [(⟨"default", "s"⟩, [])] := by
    decide +kernel
  have hmisfit : Misfit emptyListSecret .data := ⟨_, rfl, rfl, rfl⟩
  refine ⟨hload, hmisfit, fun hchecked => ?_, by decide +kernel⟩
  exact (hchecked.loaded _ hload _ List.mem_cons_self rfl).2 _ List.mem_cons_self hmisfit

end

end JenkinsAdmission.Manifest
