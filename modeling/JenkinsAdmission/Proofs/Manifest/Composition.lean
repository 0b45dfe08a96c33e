import JenkinsAdmission.BuiltIn
import JenkinsAdmission.Proofs.Manifest.Ending
import JenkinsAdmission.Proofs.Manifest.Stream

/-!
# Streams put together

Two streams of documents, one after the other, are loaded as one. What does this have to do with
loading each of them alone? The table of the second stream is written over the table of the first,
secret by secret, and where one of the two cannot be loaded there is no table at all.

* `Manifest.LastDeclared` says that a document of a stream is the last one to declare a secret under
  a coordinate, and with which data.
* `Manifest.secretsOf_append` is about two streams.
* `Manifest.get?_iff_lastDeclared` says what is under each coordinate of one stream, going through
  it from its end.
* `Manifest.secretsOf_composes` puts all this together.
-/

namespace JenkinsAdmission.Manifest

section

variable [Platform]

/-- A document declares a secret under a coordinate, with some data. The coordinate is made of
texts, so a name that is a number and a name that is its numeral are the same. -/
structure DeclaresAt (path defaultNamespace : Text) (document : Value) (c : Coordinate)
    (data : SecretData) : Prop where
  /-- the document is a secret -/
  kind : isSecret document = true
  /-- the metadata hold the coordinate -/
  place : ∃ metadata name, secretMetadata document = .ok (metadata, name) ∧
    namespaceOr defaultNamespace metadata = .ok c.ns ∧ name.written? = some c.name
  /-- the data of the document are these -/
  decoded : secretData path document = .ok data

/-- The last document of a stream that declares a secret under a coordinate does so with some
data. -/
def LastDeclared (path defaultNamespace : Text) (documents : List Value) (c : Coordinate)
    (data : SecretData) : Prop :=
  ∃ before document after, documents = before ++ document :: after ∧
    DeclaresAt path defaultNamespace document c data ∧
    ∀ later ∈ after, ∀ other, ¬DeclaresAt path defaultNamespace later c other

variable {path defaultNamespace : Text} {document : Value} {documents : List Value}
  {c : Coordinate} {data : SecretData} {secrets : Secrets}

/-- A document declares what the reader makes of it. -/
theorem declaresAt_iff :
    DeclaresAt path defaultNamespace document c data ↔
      isSecret document = true ∧ secret path defaultNamespace document = .ok (c, data) := by
  simp only [secret, Except.bind_eq_ok_iff, Except.mapError_eq_ok_iff, Except.pure_eq,
    Except.ok.injEq, Prod.mk.injEq]
  constructor
  · rintro ⟨hkind, ⟨metadata, name, hmetadata, hns, hname⟩, hdata⟩
    exact ⟨hkind, (metadata, name), hmetadata, data, hdata, c.ns, hns, c.name,
      textOrBreak_eq_ok_iff.mpr hname, rfl, rfl⟩
  · rintro ⟨hkind, ⟨metadata, name⟩, hmetadata, _, hdata, ns, hns, t, ht, rfl, rfl⟩
    exact ⟨hkind, ⟨metadata, name, hmetadata, hns, textOrBreak_eq_ok_iff.mp ht⟩, hdata⟩

/-! ## Two streams -/

/-- The fault of the first stream comes first, then that of the second. -/
theorem secretsOf_append (path defaultNamespace : Text) (a b : List Value) :
    secretsOf path defaultNamespace (a ++ b) = (do
      let s ← secretsOf path defaultNamespace a
      let t ← secretsOf path defaultNamespace b
      pure (Table.overwrite s t)) := by
  simp only [secretsOf_eq, List.mapM_append]
  cases a.mapM (declared? path defaultNamespace) with
  | error fault => rfl
  | ok writes =>
    cases b.mapM (declared? path defaultNamespace) with
    | error fault => rfl
    | ok writes' =>
      simp only [Except.ok_bind, Except.map_ok, Except.pure_eq, List.reduceOption_append,
        Table.ofWrites_append]

/-- Every coordinate is loaded once. -/
theorem nodup_keys_secretsOf (h : secretsOf path defaultNamespace documents = .ok secrets) :
    (secrets.map Prod.fst).Nodup := by
  rw [secretsOf_eq, Except.map_eq_ok_iff] at h
  obtain ⟨writes, -, rfl⟩ := h
  exact Table.nodup_keys_ofWrites _

/-- Where both streams are loaded, the second one counts before the first. -/
theorem get?_overwrite_secretsOf (s : Secrets) {t : Secrets}
    (h : secretsOf path defaultNamespace documents = .ok t) (c : Coordinate) :
    (s.overwrite t).get? c = (t.get? c).or (s.get? c) :=
  Table.get?_overwrite (nodup_keys_secretsOf h) s c

/-! ## One stream, from its end -/

/-- What a single document comes to. -/
theorem get?_secretsOf_singleton (h : secretsOf path defaultNamespace [document] = .ok secrets) :
    secrets.get? c = some data ↔ DeclaresAt path defaultNamespace document c data := by
  rw [secretsOf, List.foldlM_cons, addDocument] at h
  rw [declaresAt_iff]
  cases hsecret : isSecret document with
  | false =>
    rw [hsecret] at h
    obtain rfl : [] = secrets := Except.ok.inj h
    simp
  | true =>
    rw [hsecret, if_pos rfl] at h
    cases hdeclared : secret path defaultNamespace document with
    | error fault =>
      rw [hdeclared] at h
      cases h
    | ok entry =>
      obtain ⟨place, declared⟩ := entry
      rw [hdeclared] at h
      obtain rfl : [(place, declared)] = secrets := Except.ok.inj h
      simp [Table.get?]

/-- The last document of a stream goes before the others. -/
theorem lastDeclared_concat_iff :
    LastDeclared path defaultNamespace (documents ++ [document]) c data ↔
      DeclaresAt path defaultNamespace document c data ∨
        (∀ other, ¬DeclaresAt path defaultNamespace document c other) ∧
          LastDeclared path defaultNamespace documents c data := by
  constructor
  · rintro ⟨before, last, after, hdocuments, hlast, hafter⟩
    -- the declaration is in the last document or in front of it
    rcases List.eq_nil_or_concat' after with rfl | ⟨after, final, rfl⟩
    · obtain ⟨-, hfinal⟩ := List.append_inj' hdocuments rfl
      obtain rfl := List.cons.inj hfinal |>.1
      exact .inl hlast
    · rw [← List.cons_append, ← List.append_assoc] at hdocuments
      obtain ⟨rfl, hfinal⟩ := List.append_inj' hdocuments rfl
      obtain rfl := List.cons.inj hfinal |>.1
      exact .inr ⟨hafter document (by simp), before, last, after, rfl, hlast,
        fun later hlater => hafter later (by simp [hlater])⟩
  · rintro (hlast | ⟨hfinal, before, last, after, rfl, hlast, hafter⟩)
    · exact ⟨documents, document, [], rfl, hlast, nofun⟩
    · -- the last document declares nothing there, so it may be appended
      refine ⟨before, last, after ++ [document], by simp, hlast, fun later hlater => ?_⟩
      rcases List.mem_append.mp hlater with hlater | hlater
      · exact hafter later hlater
      · exact List.mem_singleton.mp hlater ▸ hfinal

/-- Under a coordinate there are the data that were declared last, and there is nothing else. -/
theorem get?_iff_lastDeclared (h : secretsOf path defaultNamespace documents = .ok secrets) :
    secrets.get? c = some data ↔ LastDeclared path defaultNamespace documents c data := by
  induction documents using List.reverseRecOn generalizing secrets with
  | nil =>
    obtain rfl : [] = secrets := Except.ok.inj h
    simp [LastDeclared]
  | append_singleton documents document ih =>
    simp only [secretsOf_append, Except.bind_eq_ok_iff, Except.pure_eq, Except.ok.injEq] at h
    obtain ⟨s, hs, t, ht, rfl⟩ := h
    have hfinal : t.get? c = none ↔
        ∀ other, ¬DeclaresAt path defaultNamespace document c other := by
      rw [Option.eq_none_iff_forall_ne_some]
      exact forall_congr' fun other => not_congr (get?_secretsOf_singleton ht)
    rw [get?_overwrite_secretsOf s ht, Option.or_eq_some_iff, get?_secretsOf_singleton ht, hfinal,
      ih hs, lastDeclared_concat_iff]

/-- All secrets of a stream have to be well formed, wherever they stand. -/
theorem exists_secretsOf_iff_forall :
    (∃ secrets, secretsOf path defaultNamespace documents = .ok secrets) ↔
      ∀ document ∈ documents, isSecret document = true →
        ∃ c data, DeclaresAt path defaultNamespace document c data := by
  rw [exists_secretsOf_iff, Except.exists_mapM_eq_ok_iff]
  refine forall₂_congr fun document _ => ?_
  simp only [declaresAt_iff, declared?]
  cases isSecret document with
  | false => simp
  | true =>
    cases secret path defaultNamespace document with
    | error fault => simp
    | ok entry => simpa using ⟨entry.1, entry.2, rfl⟩

/-! ## The theorem -/

/-- **Loading is compositional and all or nothing.** Of two streams in a row the first one fails
with its fault, or else the second one does, or else the table of the second is written over that of
the first, coordinate by coordinate. In the table of any stream there are, under each coordinate,
the data that were declared there last, as a whole, and there is a table only if every secret of the
stream is well formed. -/
theorem secretsOf_composes (path defaultNamespace : Text) :
    (∀ a b, secretsOf path defaultNamespace (a ++ b) = (do
        let s ← secretsOf path defaultNamespace a
        let t ← secretsOf path defaultNamespace b
        pure (Table.overwrite s t))) ∧
    (∀ s b t c, secretsOf path defaultNamespace b = .ok t →
        (Table.overwrite s t).get? c = (t.get? c).or (s.get? c)) ∧
    (∀ documents secrets c data, secretsOf path defaultNamespace documents = .ok secrets →
        (secrets.get? c = some data ↔ LastDeclared path defaultNamespace documents c data)) ∧
    (∀ documents, (∃ secrets, secretsOf path defaultNamespace documents = .ok secrets) ↔
        ∀ document ∈ documents, isSecret document = true →
          ∃ c data, DeclaresAt path defaultNamespace document c data) :=
  ⟨secretsOf_append path defaultNamespace, fun s _ _ c ht => get?_overwrite_secretsOf s ht c,
    fun _ _ _ _ h => get?_iff_lastDeclared h, fun _ => exists_secretsOf_iff_forall⟩

end

section

open scoped BuiltIn

/-- A secret of a name, with one plain text. -/
def namedSecret (name : Atom) (key value : Text) : Value :=
  Tree.toValue (.mapping [(.text "kind", .atom (.text "Secret")),
    (.text "metadata", .mapping [(.text "name", .atom name)]),
    (.text "stringData", .mapping [(.text key, .atom (.text value))])])

/-- A secret with a number for a name takes the place of one with the numeral for a name, and
nothing of the first one is left. -/
theorem secretsOf_composes_numbered :
    secretsOf "secrets.yaml" "default"
        ([namedSecret (.text "1") "user" "x"] ++ [namedSecret (.int 1) "token" "y"]) =
      .ok [(⟨"default", "1"⟩, [("token", [121])])] ∧
    LastDeclared "secrets.yaml" "default"
      ([namedSecret (.text "1") "user" "x"] ++ [namedSecret (.int 1) "token" "y"])
      ⟨"default", "1"⟩ [("token", [121])] := by
  have hload : secretsOf "secrets.yaml" "default"
      ([namedSecret (.text "1") "user" "x"] ++ [namedSecret (.int 1) "token" "y"]) =
        .ok [(⟨"default", "1"⟩, [("token", [121])])] := by
    decide +kernel
  obtain ⟨-, -, hlast, -⟩ := secretsOf_composes "secrets.yaml" "default"
  exact ⟨hload, (hlast _ _ _ _ hload).mp rfl⟩

end

end JenkinsAdmission.Manifest
