import JenkinsAdmission.Manifest.Secrets
import JenkinsAdmission.Proofs.Outcome
import JenkinsAdmission.Proofs.Table
import JenkinsAdmission.Proofs.Value
import Mathlib.Data.List.ReduceOption

/-!
# Streams of documents as lists of writes

Loading the secrets of a stream goes from document to document with the table of the secrets so far.
`Manifest.secretsOf_eq` takes the table out of this: each document amounts to a **write** or to
nothing, whatever stands before it, and the table is the one of all writes in order.

`Manifest.exists_get?_of_unplaced` follows: a secret that names no namespace is found in the default
one.
-/

namespace JenkinsAdmission.Manifest

variable [Platform]

/-- The write that a document amounts to, and nothing for one that declares no secret. -/
def declared? (path defaultNamespace : Text) (document : Value) :
    Except ManifestFault (Option (Coordinate × SecretData)) :=
  if isSecret document then (secret path defaultNamespace document).map some else .ok none

variable (path defaultNamespace : Text)

/-- A document adds what it declares, if it declares anything. -/
theorem addDocument_eq (secrets : Secrets) (document : Value) :
    addDocument path defaultNamespace secrets document =
      (declared? path defaultNamespace document).map fun write =>
        write.toList.foldl (fun t e => t.insert e.1 e.2) secrets := by
  unfold addDocument declared?
  split
  · cases secret path defaultNamespace document <;> rfl
  · rfl

/-- The secrets of a stream are the writes of its documents in order. -/
theorem secretsOf_eq (documents : List Value) :
    secretsOf path defaultNamespace documents =
      (documents.mapM (declared? path defaultNamespace)).map fun writes =>
        Table.ofWrites writes.reduceOption := by
  rw [secretsOf, Except.foldlM_eq_map_mapM (addDocument_eq path defaultNamespace)]
  congr 1
  funext writes
  rw [Table.ofWrites, List.reduceOption, List.foldl_filterMap]
  congr 1
  funext secrets write
  cases write <;> rfl

variable {path defaultNamespace}

/-- A stream is loaded when each of its documents can be. -/
theorem exists_secretsOf_iff {documents : List Value} :
    (∃ secrets, secretsOf path defaultNamespace documents = .ok secrets) ↔
      ∃ writes, documents.mapM (declared? path defaultNamespace) = .ok writes := by
  simp only [secretsOf_eq, Except.map_eq_ok_iff]
  constructor
  · rintro ⟨_, writes, hwrites, _⟩
    exact ⟨writes, hwrites⟩
  · rintro ⟨writes, hwrites⟩
    exact ⟨_, writes, hwrites, rfl⟩

/-- A secret without a namespace belongs to the default one. -/
theorem secret_place_of_unplaced {document metadata name : Value} {t : Text} {place : Coordinate}
    {data : SecretData} (hnamed : secretMetadata document = .ok (metadata, name))
    (hns : metadata.given? "namespace" = none) (hname : name.written? = some t)
    (h : secret path defaultNamespace document = .ok (place, data)) :
    place = ⟨defaultNamespace, t⟩ := by
  simp only [secret, hnamed, Except.mapError_ok, Except.ok_bind, namespaceOr, hns,
    Value.textOrBreak, Value.written?_eq_some_iff.mp hname, Except.mapError_ok, Except.pure_eq,
    Except.bind_eq_ok_iff, Except.ok.injEq, Prod.mk.injEq] at h
  obtain ⟨_, -, hplace, -⟩ := h
  exact hplace.symm

/-- A secret that names no namespace is found in the default one. -/
theorem exists_get?_of_unplaced {documents : List Value} {secrets : Secrets}
    {document metadata name : Value} {t : Text}
    (hload : secretsOf path defaultNamespace documents = .ok secrets)
    (hmem : document ∈ documents) (hsecret : isSecret document = true)
    (hnamed : secretMetadata document = .ok (metadata, name))
    (hns : metadata.given? "namespace" = none) (hname : name.written? = some t) :
    ∃ data, secrets.get? ⟨defaultNamespace, t⟩ = some data := by
  rw [secretsOf_eq, Except.map_eq_ok_iff] at hload
  obtain ⟨writes, hwrites, rfl⟩ := hload
  obtain ⟨write, hwrite⟩ := Except.eq_ok_of_mapM_eq_ok hwrites document hmem
  have hmemWrite : write ∈ writes := Except.mem_of_mapM_eq_ok hwrites hmem hwrite
  rw [declared?, if_pos hsecret, Except.map_eq_ok_iff] at hwrite
  obtain ⟨⟨place, data⟩, hplace, rfl⟩ := hwrite
  obtain rfl := secret_place_of_unplaced hnamed hns hname hplace
  exact Table.exists_get?_foldl_insert
    (List.mem_map_of_mem (List.reduceOption_mem_iff.mpr hmemWrite))

end JenkinsAdmission.Manifest
