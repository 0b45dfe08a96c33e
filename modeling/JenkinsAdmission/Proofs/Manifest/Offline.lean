import JenkinsAdmission.BuiltIn
import JenkinsAdmission.Proofs.Gate.Congruence
import JenkinsAdmission.Proofs.Manifest.Stream
import JenkinsAdmission.Proofs.Secret.Plain

/-!
# Validation without a cluster

Secrets are either loaded from manifests or asked for from the API of a cluster. A secret that is in
a manifest and in the cluster goes through two decoders on its two ways, one for a whole stream of
documents and one for a single secret on demand.

* A `SecretManifest` is a document that declares a `PlainSecret`.
* `Api.Serves` says that an API shows the secrets of manifests, and no others.
* `Manifest.secretsOf_agrees` says that the stream is loaded if and only if the API can be read at
  all its coordinates, and that then the two stores have the same answer for every coordinate, so
  that validation takes the same course over either.
-/

namespace JenkinsAdmission

/-! ## Secret manifests -/

namespace Manifest

/-- A field of a document holds plain values: none if the field is left out or null, and otherwise
those of a mapping with texts for keys. -/
inductive FieldHolds (document : Value) (field : SecretField) : PlainEntries → Prop
  /-- the field is left out -/
  | absent (h : document.get? field.key = none) : FieldHolds document field []
  /-- the field is null -/
  | null {v : Value} (h : document.get? field.key = some v) (hnull : v.isNull = true) :
    FieldHolds document field []
  /-- the field is a mapping -/
  | mapping {v : Value} {entries : List (Atom × Value)} {plain : PlainEntries}
    (h : document.get? field.key = some v) (hentries : v.entries? = some entries)
    (hplain : EntriesHold .text entries plain) : FieldHolds document field plain

/-- A document declares a secret under a coordinate. -/
structure Declares (document : Value) (c : Coordinate) (s : PlainSecret) : Prop where
  /-- the kind of the document -/
  kind : (document.get? "kind").bind Value.text? = some "Secret"
  /-- the metadata hold the coordinate -/
  metadata : ∃ metadata, document.get? "metadata" = some metadata ∧
    (metadata.get? "name").bind Value.text? = some c.name ∧
    (metadata.get? "namespace").bind Value.text? = some c.ns
  /-- the name is not empty -/
  name_ne : c.name ≠ []
  /-- the namespace is not empty -/
  ns_ne : c.ns ≠ []
  /-- the base64 texts -/
  data : FieldHolds document .data s.data
  /-- the plain texts -/
  stringData : FieldHolds document .stringData s.stringData

end Manifest

/-- A document that declares a secret. -/
structure SecretManifest where
  /-- the document -/
  document : Value
  /-- where the secret is -/
  place : Coordinate
  /-- the secret -/
  secret : PlainSecret
  /-- the document declares the secret -/
  declares : Manifest.Declares document place secret

/-! ## The decoder of manifests -/

section

variable [Platform]

namespace Manifest

variable {document : Value} {c : Coordinate} {s : PlainSecret}

omit [Platform] in
/-- A field of the document has the entries that the plain secret has. -/
theorem FieldHolds.secretEntries_eq {field : SecretField} {plain : PlainEntries}
    (h : FieldHolds document field plain) :
    ∃ entries, secretEntries document field = .ok entries ∧ EntriesHold .text entries plain := by
  cases h with
  | absent h =>
    refine ⟨[], ?_, .nil⟩
    rw [secretEntries, Value.given?_of_get?_eq_none h]
  | null h hnull =>
    refine ⟨[], ?_, .nil⟩
    rw [secretEntries, Value.given?_of_isFalsy h (Value.isFalsy_of_isNull hnull)]
  | @mapping v entries _ h hentries hplain =>
    refine ⟨entries, ?_, hplain⟩
    have hfalsy := Value.isFalsy_of_entries? hentries
    cases entries with
    | nil => rw [secretEntries, Value.given?_of_isFalsy h hfalsy]
    | cons e rest => simp only [secretEntries, Value.given?_of_not_isFalsy h hfalsy, hentries]

/-- The decoder of manifests looks at the two fields of data only. -/
theorem secretData_eq_ok_iff (hdata : FieldHolds document .data s.data)
    (hstringData : FieldHolds document .stringData s.stringData) {path : Text}
    {data : SecretData} :
    secretData path document = .ok data ↔ s.Decodable ∧ data = s.content := by
  obtain ⟨encoded, hencoded, hdata⟩ := hdata.secretEntries_eq
  obtain ⟨plain, hplain, hstringData⟩ := hstringData.secretEntries_eq
  have hfirst : ∀ d, SecretData.collect dataKey dataBytes encoded [] = .ok d ↔
      s.Decodable ∧ d = Table.ofWrites (s.data.writes Plain.decoded) := fun d =>
    hdata.collect_eq_ok_iff (fun _ => rfl) fun h _ => dataBytes_eq_ok_iff h
  have hsecond : ∀ d, SecretData.collect stringKey stringBytes plain d = .ok data ↔
      data = (s.stringData.writes Plain.encoded).foldl (fun t e => t.insert e.1 e.2) d :=
    fun d => (hstringData.collect_eq_ok_iff (fun _ => rfl) fun h _ =>
      stringBytes_eq_ok_iff h).trans (and_iff_right s.encodable)
  rw [← s.exists_encoded_iff, secretData, hencoded, hplain]
  simp only [Except.mapError_ok, Except.ok_bind, Except.bind_eq_ok_iff, Except.mapError_eq_ok_iff,
    hfirst, hsecond]

/-- The name and the namespace in the metadata of a secret. -/
theorem secretMetadata_eq (h : Declares document c s) (defaultNamespace : Text) :
    ∃ metadata name, secretMetadata document = .ok (metadata, name) ∧
      name.textOrBreak = .ok c.name ∧ namespaceOr defaultNamespace metadata = .ok c.ns := by
  obtain ⟨metadata, hmetadata, hname, hns⟩ := h.metadata
  obtain ⟨name, hname, hnameText⟩ := Option.bind_eq_some_iff.mp hname
  obtain ⟨ns, hns, hnsText⟩ := Option.bind_eq_some_iff.mp hns
  obtain ⟨hmapping, hfalsy⟩ := Value.isMapping_of_get? hname
  have hnameGiven := Value.given?_of_not_isFalsy hname (by
    rw [Value.isFalsy_of_text? hnameText]
    exact List.isEmpty_eq_false_iff.mpr h.name_ne)
  have hnsGiven := Value.given?_of_not_isFalsy hns (by
    rw [Value.isFalsy_of_text? hnsText]
    exact List.isEmpty_eq_false_iff.mpr h.ns_ne)
  refine ⟨metadata, name, ?_, ?_, ?_⟩
  · simp only [secretMetadata, SecretField.key, Value.given?_of_not_isFalsy hmetadata hfalsy,
      hmapping, if_true, hnameGiven]
  · rw [Value.textOrBreak, Value.written_of_text? hnameText, Except.mapError_ok]
  · simp only [namespaceOr, hnsGiven, Value.textOrBreak, Value.written_of_text? hnsText,
      Except.mapError_ok]

/-- A document amounts to writing the data of its secret under its coordinate. -/
theorem declared?_eq_ok_iff (h : Declares document c s) {path defaultNamespace : Text}
    {write : Option (Coordinate × SecretData)} :
    declared? path defaultNamespace document = .ok write ↔
      s.Decodable ∧ write = some (c, s.content) := by
  obtain ⟨metadata, name, hmetadata, hname, hns⟩ := secretMetadata_eq h defaultNamespace
  have hkind : isSecret document = true := by
    obtain ⟨kind, hkind, htext⟩ := Option.bind_eq_some_iff.mp h.kind
    rw [isSecret, hkind, Option.any_some, htext]
    exact beq_self_eq_true _
  -- the data first, then the namespace, and the name at the end
  rw [declared?, if_pos hkind, secret, hmetadata, Except.mapError_ok, Except.ok_bind,
    Except.map_eq_ok_iff]
  simp only [Except.bind_eq_ok_iff, secretData_eq_ok_iff h.data h.stringData, hname, hns]
  constructor
  · rintro ⟨_, ⟨_, ⟨hs, rfl⟩, _, hns, _, hname, hpure⟩, hwrite⟩
    obtain rfl := Except.ok.inj hns
    obtain rfl := Except.ok.inj hname
    obtain rfl := Except.ok.inj hpure
    exact ⟨hs, hwrite.symm⟩
  · rintro ⟨hs, hwrite⟩
    exact ⟨_, ⟨_, ⟨hs, rfl⟩, _, rfl, _, rfl, rfl⟩, hwrite.symm⟩

end Manifest

/-! ## Loading manifests -/

/-- The data of the secrets under their coordinates. -/
def SecretManifest.write (m : SecretManifest) : Coordinate × SecretData :=
  (m.place, m.secret.content)

namespace Manifest

variable (path defaultNamespace : Text) (manifests : List SecretManifest)

/-- Manifests are loaded if and only if all of them can be decoded, and what is loaded is the data
of their secrets. -/
theorem secretsOf_eq_ok_iff {secrets : Secrets} :
    secretsOf path defaultNamespace (manifests.map SecretManifest.document) = .ok secrets ↔
      (∀ m ∈ manifests, m.secret.Decodable) ∧
        secrets = Table.ofWrites (manifests.map SecretManifest.write) := by
  have hwrites (h : ∀ m ∈ manifests, m.secret.Decodable) :
      (manifests.map SecretManifest.document).mapM (declared? path defaultNamespace) =
        .ok ((manifests.map SecretManifest.write).map some) := by
    rw [List.mapM_map, List.map_map]
    refine Except.mapM_of_forall_eq_ok fun m hm => ?_
    exact (declared?_eq_ok_iff m.declares).mpr ⟨h m hm, rfl⟩
  rw [secretsOf_eq, Except.map_eq_ok_iff]
  constructor
  · -- that the writes are known ones follows only once every secret can be decoded
    rintro ⟨writes, hmapM, hsecrets⟩
    have hdecodable : ∀ m ∈ manifests, m.secret.Decodable := by
      intro m hm
      obtain ⟨write, hwrite⟩ :=
        Except.eq_ok_of_mapM_eq_ok hmapM m.document (List.mem_map_of_mem hm)
      exact ((declared?_eq_ok_iff m.declares).mp hwrite).1
    rw [hwrites hdecodable] at hmapM
    rw [← hsecrets, ← Except.ok.inj hmapM, List.reduceOption, List.filterMap_map]
    refine ⟨hdecodable, ?_⟩
    simp
  · rintro ⟨hdecodable, hsecrets⟩
    refine ⟨_, hwrites hdecodable, ?_⟩
    rw [hsecrets, List.reduceOption, List.filterMap_map]
    simp

end Manifest

/-! ## The API of a cluster -/

/-- An API serves the secrets of manifests and answers for every other coordinate that there is no
secret. -/
structure Api.Serves (api : Api) (manifests : List SecretManifest) : Prop where
  /-- the secrets of the manifests are there -/
  found : ∀ m ∈ manifests, ∃ s, api m.place = .secret s ∧ s.Shows m.secret
  /-- there is no other secret -/
  missing : ∀ c, (∀ m ∈ manifests, m.place ≠ c) →
    ∃ status reason, api c = .failure status reason ∧ status.isNotFoundStatus = true

/-- Two answers for a coordinate that are data with the same values under all keys, or both that
there is no secret. -/
def SameAnswer (c : Coordinate) (x y : Except LookupFault SecretData) : Prop :=
  (∃ d e, x = .ok d ∧ y = .ok e ∧ ∀ key, d.get? key = e.get? key) ∨
    (x = .error (.notFound c) ∧ y = .error (.notFound c))

namespace Api.Serves

variable {api : Api} {manifests : List SecretManifest}

/-- The secret of a manifest can be read if and only if it can be decoded. -/
theorem exists_get_place_iff (h : api.Serves manifests) {m : SecretManifest} (hm : m ∈ manifests) :
    (∃ data, api.store.get m.place = .ok data) ↔ m.secret.Decodable := by
  obtain ⟨s, hreply, hshows⟩ := h.found m hm
  rw [← hshows.exists_decode_iff m.place]
  simp only [store, hreply, ApiReply.resolve]

/-- Under a key, the API shows what the manifest says. -/
theorem get?_of_get_place (h : api.Serves manifests) {m : SecretManifest} (hm : m ∈ manifests)
    {data : SecretData} (hdata : api.store.get m.place = .ok data) (key : Text) :
    data.get? key = m.secret.content.get? key := by
  obtain ⟨s, hreply, hshows⟩ := h.found m hm
  simp only [store, hreply, ApiReply.resolve] at hdata
  exact hshows.get?_of_decode hdata key

/-- The API shows nothing that no manifest declares. -/
theorem get_of_notMem (h : api.Serves manifests) {c : Coordinate}
    (hc : c ∉ manifests.map SecretManifest.place) : api.store.get c = .error (.notFound c) := by
  obtain ⟨status, reason, hreply, hstatus⟩ :=
    h.missing c fun m hm heq => hc (List.mem_map.mpr ⟨m, hm, heq⟩)
  simp only [store, hreply, ApiReply.resolve, hstatus, if_true]

/-- The table of manifests with distinct coordinates has the answers of the API. -/
theorem sameAnswer (h : api.Serves manifests)
    (hplaces : (manifests.map SecretManifest.place).Nodup)
    (hdecodable : ∀ m ∈ manifests, m.secret.Decodable) (c : Coordinate) :
    SameAnswer c ((Secrets.store (Table.ofWrites (manifests.map SecretManifest.write))).get c)
      (api.store.get c) := by
  have hkeys : (manifests.map SecretManifest.write).map Prod.fst =
      manifests.map SecretManifest.place := by
    rw [List.map_map]
    rfl
  rw [Table.ofWrites]
  -- every place is declared once, so what is written there is found there
  by_cases hc : c ∈ manifests.map SecretManifest.place
  · obtain ⟨m, hm, rfl⟩ := List.mem_map.mp hc
    obtain ⟨data, hdata⟩ := (h.exists_get_place_iff hm).mpr (hdecodable m hm)
    have hwrite : (m.place, m.secret.content) ∈ manifests.map SecretManifest.write :=
      List.mem_map_of_mem hm
    refine .inl ⟨m.secret.content, data, ?_, hdata, fun key =>
      (h.get?_of_get_place hm hdata key).symm⟩
    simp only [Secrets.store, Table.get?_foldl_insert_of_mem (hkeys ▸ hplaces) hwrite]
  · refine .inr ⟨?_, h.get_of_notMem hc⟩
    simp only [Secrets.store, Table.get?_foldl_insert_of_notMem (hkeys ▸ hc), Table.get?_nil]

end Api.Serves

/-! ## The two stores -/

/-- Data with the same values show the same defects. -/
theorem SecretData.sameDefect_of_get?_eq {d e : SecretData} (h : ∀ key, d.get? key = e.get? key)
    (ref : SecretKeyRef) : SameDefect ref d e := by
  intro secret
  have hvalue : d.value ref.key = e.value ref.key := by rw [value, value, h]
  rw [SeedJob.keyDefect?, SeedJob.keyDefect?, hvalue]

omit [Platform] in
theorem SecretData.missingCredentials_of_get?_eq {d e : SecretData}
    (h : ∀ key, d.get? key = e.get? key) : d.missingCredentials = e.missingCredentials := by
  simp only [missingCredentials, value, h]

omit [Platform] in
/-- The same answer is an answer that is alike. -/
theorem SameAnswer.alike {c : Coordinate} {x y : Except LookupFault SecretData}
    (h : SameAnswer c x y) : Alike (fun d e => ∀ key, d.get? key = e.get? key) x y := by
  rcases h with hdata | ⟨hx, hy⟩
  · exact .inr hdata
  · exact .inl ⟨_, hx, hy⟩

/-- Stores with the same answers agree on every resource. -/
theorem Jenkins.agree_of_sameAnswer {a b : Answers} (h : ∀ c, SameAnswer c (a c) (b c))
    (operator : Text) (j : Jenkins) : j.Agree operator a b where
  deployKeys := fun _ _ ref _ =>
    (h _).alike.imp fun _ _ hsame => SecretData.sameDefect_of_get?_eq hsame ref
  credentials := fun _ =>
    (h _).alike.imp fun _ _ => SecretData.missingCredentials_of_get?_eq

namespace Manifest

/-- **Manifests stand for the cluster.** A stream of manifests with distinct coordinates is loaded
if and only if an API that serves their secrets can be read at all these coordinates. Then the table
has the answers of the API everywhere, and validation takes the same course over both. -/
theorem secretsOf_agrees (path defaultNamespace : Text) (manifests : List SecretManifest)
    (api : Api) (hplaces : (manifests.map SecretManifest.place).Nodup)
    (hapi : api.Serves manifests) :
    ((∃ secrets, secretsOf path defaultNamespace (manifests.map SecretManifest.document) =
        .ok secrets) ↔ ∀ m ∈ manifests, ∃ data, api.store.get m.place = .ok data) ∧
      ∀ secrets, secretsOf path defaultNamespace (manifests.map SecretManifest.document) =
          .ok secrets →
        (∀ c, SameAnswer c (secrets.store.get c) (api.store.get c)) ∧
        ∀ (g : Gate) (environment : Option Text) (j : Jenkins),
          (g.validate environment secrets.store j).SameCourse
            (g.validate environment api.store j) := by
  constructor
  · simp only [secretsOf_eq_ok_iff, exists_and_left, exists_eq, and_true]
    exact forall₂_congr fun m hm => (hapi.exists_get_place_iff hm).symm
  · intro secrets hload
    obtain ⟨hdecodable, rfl⟩ := (secretsOf_eq_ok_iff path defaultNamespace manifests).mp hload
    have hsame := hapi.sameAnswer hplaces hdecodable
    refine ⟨hsame, fun g environment j => ?_⟩
    exact Gate.validate_sameCourse g environment (Jenkins.agree_of_sameAnswer hsame _ j)

end Manifest

end

namespace Manifest

open scoped BuiltIn

/-! ### Two manifests

Secrets of one name in two namespaces. The API serves the entries of the first one in another
order. -/

/-- A document of the kind of secrets. -/
def secretDocument (c : Coordinate) (fields : List (Atom × Tree)) : Value :=
  Tree.toValue (.mapping ([(.text "kind", .atom (.text "Secret")),
    (.text "metadata", .mapping
      [(.text "name", .atom (.text c.name)), (.text "namespace", .atom (.text c.ns))])] ++ fields))

/-- A secret with base64 texts, one of which is null. -/
def encodedManifest : SecretManifest where
  document := secretDocument ⟨"ns", "login"⟩ [(.text "data", .mapping
    [(.text "user", .atom (.text "eA==")), (.text "note", .atom .null)])]
  place := ⟨"ns", "login"⟩
  secret :=
    { data := [("user", some "eA=="), ("note", none)]
      stringData := []
      data_nodup := by decide
      stringData_nodup := by decide
      encodable := by simp }
  declares :=
    { kind := rfl
      metadata := ⟨_, rfl, rfl, rfl⟩
      name_ne := by decide
      ns_ne := by decide
      data := .mapping rfl rfl (.cons ⟨rfl, rfl⟩ (.cons ⟨rfl, rfl⟩ .nil))
      stringData := .absent rfl }

/-- A secret with a plain text. -/
def plainManifest : SecretManifest where
  document := secretDocument ⟨"ops", "login"⟩ [(.text "data", .atom .null),
    (.text "stringData", .mapping [(.text "user", .atom (.text "x"))])]
  place := ⟨"ops", "login"⟩
  secret :=
    { data := []
      stringData := [("user", some "x")]
      data_nodup := by decide
      stringData_nodup := by decide
      encodable := by simpa using ⟨[120], rfl⟩ }
  declares :=
    { kind := rfl
      metadata := ⟨_, rfl, rfl, rfl⟩
      name_ne := by decide
      ns_ne := by decide
      data := .null rfl rfl
      stringData := .mapping rfl rfl (.cons ⟨rfl, rfl⟩ .nil) }

/-- An API with the secrets of the two manifests. -/
def loginApi : Api := fun c =>
  if c = ⟨"ns", "login"⟩ then
    .secret ⟨[("note", .ofAtom .null), ("user", .ofAtom (.text "eA=="))], []⟩
  else if c = ⟨"ops", "login"⟩ then .secret ⟨[], [("user", .ofAtom (.text "x"))]⟩
  else .failure (.ofAtom (.int 404)) (.ofAtom (.text "Not Found"))

/-- The API of the example serves both of its manifests. -/
theorem serves_loginApi : loginApi.Serves [encodedManifest, plainManifest] where
  found := by
    intro m hm
    rcases List.mem_pair.mp hm with rfl | rfl
    · refine ⟨_, rfl, ⟨[("note", none), ("user", some "eA==")], [], by decide, by decide, by simp⟩,
        ⟨.swap _ _ _, .nil⟩, .cons ⟨rfl, rfl⟩ (.cons ⟨rfl, rfl⟩ .nil), .nil⟩
    · exact ⟨_, rfl, plainManifest.secret, ⟨.refl _, .refl _⟩, .nil, .cons ⟨rfl, rfl⟩ .nil⟩
  missing := by
    intro c hc
    have hfirst : c ≠ ⟨"ns", "login"⟩ := fun h => hc encodedManifest (by simp) h.symm
    have hsecond : c ≠ ⟨"ops", "login"⟩ := fun h => hc plainManifest (by simp) h.symm
    refine ⟨.ofAtom (.int 404), .ofAtom (.text "Not Found"), ?_, by decide⟩
    rw [loginApi, if_neg hfirst, if_neg hsecond]

/-- Both secrets are loaded, and validation cannot tell the table from the API. -/
theorem secretsOf_loginManifests :
    ∃ secrets, secretsOf "secrets.yaml" "default"
        ([encodedManifest, plainManifest].map SecretManifest.document) = .ok secrets ∧
      ∀ (g : Gate) (environment : Option Text) (j : Jenkins),
        (g.validate environment secrets.store j).SameCourse
          (g.validate environment loginApi.store j) := by
  obtain ⟨hload, hagree⟩ := secretsOf_agrees "secrets.yaml" "default"
    [encodedManifest, plainManifest] loginApi (by decide) serves_loginApi
  have hread : ∀ m ∈ [encodedManifest, plainManifest],
      ∃ data, loginApi.store.get m.place = .ok data := by
    intro m hm
    rcases List.mem_pair.mp hm with rfl | rfl
    · exact ⟨[("note", []), ("user", [120])], rfl⟩
    · exact ⟨[("user", [120])], rfl⟩
  obtain ⟨secrets, hsecrets⟩ := hload.mpr hread
  exact ⟨secrets, hsecrets, (hagree secrets hsecrets).2⟩

end Manifest

end JenkinsAdmission
