import JenkinsAdmission.BuiltIn
import JenkinsAdmission.Proofs.Base64
import JenkinsAdmission.Proofs.Manifest.Offline

/-!
# Secrets there and back

A secret is made from values under keys: bytes, which are written in base64, and texts, which are
written as they are. Whether it is declared by a manifest or served by an API, it is decoded to
these values again.

* A `SecretPayload` is what a secret is made from, and `SecretPayload.written` is the secret.
* `SecretData.Restores` says that data are exactly a payload, where texts go before bytes and null
  is the empty value.
* `SecretPayload.decoded_of_written` says that both decoders undo the writing.
-/

namespace JenkinsAdmission

/-- The values that a secret is made from. Within a field no key occurs twice. -/
structure SecretPayload where
  /-- the bytes, or null -/
  bytes : List (Text × Option Bytes)
  /-- the texts, or null -/
  texts : PlainEntries
  /-- the keys of the bytes are distinct -/
  bytes_nodup : (bytes.map Prod.fst).Nodup
  /-- the keys of the texts are distinct -/
  texts_nodup : (texts.map Prod.fst).Nodup
  /-- the texts have bytes -/
  encodable : ∀ e ∈ texts, e.2.IsEncodable

/-- Data are exactly a payload. -/
structure SecretData.Restores (data : SecretData) (p : SecretPayload) : Prop where
  /-- no key is there twice -/
  nodup : (data.map Prod.fst).Nodup
  /-- the bytes of a text are under its key -/
  text : ∀ key t, (key, t) ∈ p.texts → ∃ b, t.text.utf8? = some b ∧ data.get? key = some b
  /-- bytes are under their key if there is no text -/
  bytes : ∀ key b, (key, b) ∈ p.bytes → key ∉ p.texts.map Prod.fst →
    data.get? key = some (b.getD [])
  /-- there is nothing else -/
  other : ∀ key, key ∉ p.texts.map Prod.fst → key ∉ p.bytes.map Prod.fst → data.get? key = none

/-- Bytes in base64. -/
def Plain.ofBytes (b : Option Bytes) : Plain :=
  b.map fun b => Text.ofAscii (Base64.encode b)

theorem Plain.isBase64_ofBytes (b : Option Bytes) : (ofBytes b).IsBase64 := by
  cases b with
  | none => exact ⟨[], Base64.decodeText_nil⟩
  | some b => exact ⟨b, Base64.decodeText_encode b⟩

/-- The bytes that were written, where nothing stands for none. -/
theorem Plain.decoded_ofBytes (b : Option Bytes) : (ofBytes b).decoded = b.getD [] := by
  cases b with
  | none => rfl
  | some b =>
    have hdecode : Base64.decodeText (ofBytes (some b)).text = .ok b := Base64.decodeText_encode b
    exact (decodeText_eq_ok_iff.mp hdecode).2.symm

namespace SecretPayload

/-- The secret, with the bytes in base64. -/
def written (p : SecretPayload) : PlainSecret where
  data := p.bytes.map fun e => (e.1, Plain.ofBytes e.2)
  stringData := p.texts
  data_nodup := by
    rw [List.map_map]
    exact p.bytes_nodup
  stringData_nodup := p.texts_nodup
  encodable := p.encodable

variable {p : SecretPayload} {data : SecretData}

/-- What was written can be decoded. -/
theorem decodable_written (p : SecretPayload) : p.written.Decodable := by
  intro e he
  obtain ⟨f, -, rfl⟩ := List.mem_map.mp he
  exact Plain.isBase64_ofBytes f.2

/-- Under a key, a text overrides the bytes. -/
theorem get?_content_written (p : SecretPayload) (key : Text) :
    p.written.content.get? key =
      ((Table.get? p.texts key).map Plain.encoded).or
        ((Table.get? p.bytes key).map fun b => b.getD []) := by
  have hbytes : (Table.get? p.written.data key).map Plain.decoded =
      (Table.get? p.bytes key).map fun b => b.getD [] := by
    simp only [written, Table.get?_map, Option.map_map, Function.comp_def, Plain.decoded_ofBytes]
  rw [PlainSecret.get?_content, hbytes]
  rfl

/-- Data with the content of the secret under their keys are the payload. -/
theorem restores_of_get?_eq (hnodup : (data.map Prod.fst).Nodup)
    (h : ∀ key, data.get? key = p.written.content.get? key) : data.Restores p where
  nodup := hnodup
  text := by
    intro key t ht
    obtain ⟨b, hb⟩ := p.encodable _ ht
    obtain ⟨-, rfl⟩ := Plain.utf8?_eq_some_iff.mp hb
    refine ⟨_, hb, ?_⟩
    -- the texts are written last, so they are what is found
    rw [h, get?_content_written, Table.get?_eq_some_of_mem p.texts_nodup ht, Option.map_some,
      Option.some_or]
  bytes := by
    intro key b hb hkey
    rw [h, get?_content_written, Table.get?_eq_none_of_notMem hkey,
      Table.get?_eq_some_of_mem p.bytes_nodup hb]
    rfl
  other := by
    intro key htexts hbytes
    rw [h, get?_content_written, Table.get?_eq_none_of_notMem htexts,
      Table.get?_eq_none_of_notMem hbytes]
    rfl

variable [Platform] in
/-- **Decoding undoes encoding.** Of a payload that a document declares or that an API serves, in
whatever order, each of the two decoders gives exactly the payload. -/
theorem decoded_of_written (p : SecretPayload) {document : Value} {reply : ApiSecret}
    (hdata : Manifest.FieldHolds document .data p.written.data)
    (hstringData : Manifest.FieldHolds document .stringData p.written.stringData)
    (hreply : reply.Shows p.written) (path : Text) (c : Coordinate) :
    (∃ data, Manifest.secretData path document = .ok data ∧ data.Restores p) ∧
      ∃ data, reply.decode c = .ok data ∧ data.Restores p := by
  constructor
  · refine ⟨_, (Manifest.secretData_eq_ok_iff hdata hstringData).mpr
      ⟨p.decodable_written, rfl⟩, ?_⟩
    exact restores_of_get?_eq (Table.nodup_keys_ofWrites _) fun _ => rfl
  · obtain ⟨data, hdecode⟩ := (hreply.exists_decode_iff c).mpr p.decodable_written
    exact ⟨data, hdecode, restores_of_get?_eq (hreply.nodup_keys_of_decode hdecode)
      (hreply.get?_of_decode hdecode)⟩

/-- One, two and three bytes, a text that goes before one of them, and nulls. -/
def mixed : SecretPayload where
  bytes := [("user", some [1]), ("pair", some [1, 2]), ("triple", some [1, 2, 3]), ("blank", none)]
  texts := [("user", some "x"), ("note", none)]
  bytes_nodup := by decide
  texts_nodup := by decide
  encodable := by
    intro e he
    rcases List.mem_pair.mp he with rfl | rfl
    · exact ⟨[120], rfl⟩
    · exact ⟨[], rfl⟩

/-- A document with the payload. -/
def mixedDocument : Value :=
  Manifest.secretDocument ⟨"ns", "mixed"⟩
    [(.text "data", .mapping [(.text "user", .atom (.text "AQ==")),
      (.text "pair", .atom (.text "AQI=")), (.text "triple", .atom (.text "AQID")),
      (.text "blank", .atom .null)]),
    (.text "stringData", .mapping [(.text "user", .atom (.text "x")),
      (.text "note", .atom .null)])]

/-- A reply with the payload, with the first two entries the other way round. -/
def mixedReply : ApiSecret :=
  ⟨[("pair", .ofAtom (.text "AQI=")), ("user", .ofAtom (.text "AQ==")),
    ("triple", .ofAtom (.text "AQID")), ("blank", .ofAtom .null)],
    [("user", .ofAtom (.text "x")), ("note", .ofAtom .null)]⟩

theorem shows_mixedReply : mixedReply.Shows mixed.written := by
  obtain ⟨a, b, rest, hdata⟩ : ∃ a b rest, mixed.written.data = a :: b :: rest := ⟨_, _, _, rfl⟩
  have hperm : (b :: a :: rest).Perm mixed.written.data := hdata ▸ .swap a b rest
  refine ⟨{ mixed.written with
    data := b :: a :: rest
    data_nodup := (hperm.map Prod.fst).nodup_iff.mpr mixed.written.data_nodup },
    ⟨hperm, .refl _⟩, ?_, ?_⟩
  · cases hdata
    exact .cons ⟨rfl, rfl⟩ (.cons ⟨rfl, rfl⟩ (.cons ⟨rfl, rfl⟩ (.cons ⟨rfl, rfl⟩ .nil)))
  · exact .cons ⟨rfl, rfl⟩ (.cons ⟨rfl, rfl⟩ .nil)

open scoped BuiltIn in
/-- Both decoders give the payload back. -/
theorem decoded_of_written_mixed :
    (∃ data, Manifest.secretData "secrets.yaml" mixedDocument = .ok data ∧ data.Restores mixed) ∧
      ∃ data, mixedReply.decode ⟨"ns", "mixed"⟩ = .ok data ∧ data.Restores mixed := by
  refine mixed.decoded_of_written (.mapping rfl rfl ?_) (.mapping rfl rfl ?_) shows_mixedReply
    "secrets.yaml" ⟨"ns", "mixed"⟩
  · exact .cons ⟨rfl, rfl⟩ (.cons ⟨rfl, rfl⟩ (.cons ⟨rfl, rfl⟩ (.cons ⟨rfl, rfl⟩ .nil)))
  · exact .cons ⟨rfl, rfl⟩ (.cons ⟨rfl, rfl⟩ .nil)

end SecretPayload

end JenkinsAdmission
