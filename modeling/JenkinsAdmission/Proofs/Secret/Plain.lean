import JenkinsAdmission.Manifest.Secrets
import JenkinsAdmission.Proofs.Secret.Collected
import JenkinsAdmission.Proofs.Table
import JenkinsAdmission.Proofs.Value
import JenkinsAdmission.Secret.Api
import Mathlib.Data.List.Forall2

/-!
# Plain secrets

A value of a secret is **plain** when it is a text or null. Manifests and the API each have a
decoder of their own, and each decoder goes through the entries in the order in which it gets them.
A `PlainSecret` is what there is to decode, apart from documents, replies and orders.

* `PlainSecret.content` is what its data come to, and `PlainSecret.Decodable` when they come to
  anything.
* `EntriesHold.collect_eq_ok_iff` says this of one field, for every decoder that agrees on plain
  values.
* `ApiSecret.Shows.exists_decode_iff` and `ApiSecret.Shows.get?_of_decode` say it of the decoder of
  the API, in whichever order the API serves the entries.
-/

namespace JenkinsAdmission

/-! ## Plain values -/

/-- A text, or null. -/
abbrev Plain := Option Text

namespace Plain

/-- The text that a plain value stands for. -/
def text (p : Plain) : Text :=
  p.getD []

/-- The text is base64. -/
def IsBase64 (p : Plain) : Prop :=
  ∃ bytes, Base64.decodeText p.text = .ok bytes

/-- The bytes that the text stands for in base64. -/
def decoded (p : Plain) : Bytes :=
  (Base64.decodeText p.text).toOption.getD []

/-- The text has bytes. -/
def IsEncodable (p : Plain) : Prop :=
  ∃ bytes, p.text.utf8? = some bytes

/-- The bytes of the text. -/
def encoded (p : Plain) : Bytes :=
  p.text.utf8?.getD []

/-- A plain value is decoded to what the reference says, if it is base64. -/
theorem decodeText_eq_ok_iff {p : Plain} {b : Bytes} :
    Base64.decodeText p.text = .ok b ↔ p.IsBase64 ∧ b = p.decoded := by
  unfold IsBase64 decoded
  cases Base64.decodeText p.text with
  | error defect => simp
  | ok bytes => simp [Except.toOption, eq_comm]

/-- A plain value is encoded to what the reference says, if it has bytes. -/
theorem utf8?_eq_some_iff {p : Plain} {b : Bytes} :
    p.text.utf8? = some b ↔ p.IsEncodable ∧ b = p.encoded := by
  unfold IsEncodable encoded
  cases p.text.utf8? with
  | none => simp
  | some bytes => simp [eq_comm]

end Plain

namespace Value

/-- A value is plain, and which plain value it is. -/
def Holds (v : Value) : Plain → Prop
  | none => v.isNull = true
  | some t => v.text? = some t

/-- A plain value is left out or stands for a text that is written as it is. -/
theorem Holds.cases {v : Value} {p : Plain} (h : v.Holds p) :
    (v.isFalsy = true ∧ p.text = []) ∨
      (v.isFalsy = false ∧ v.text? = some p.text) := by
  cases p with
  | none => exact .inl ⟨isFalsy_of_isNull h, rfl⟩
  | some t =>
    have ht : v.text? = some t := h
    rw [isFalsy_of_text? ht]
    cases t with
    | nil => exact .inl ⟨rfl, rfl⟩
    | cons a t => exact .inr ⟨rfl, ht⟩

end Value

theorem Base64.decodeText_nil : Base64.decodeText [] = .ok [] := rfl

theorem Text.utf8?_nil : Text.utf8? [] = some [] := rfl

/-! ## Decoders of plain values -/

namespace Manifest

variable [Platform] {v : Value} {p : Plain}

/-- A plain value is written as the text that it stands for. -/
theorem secretText_of_holds (h : v.Holds p) : secretText v = .ok p.text := by
  rcases h.cases with ⟨hfalsy, htext⟩ | ⟨hfalsy, htext⟩
  · simp [secretText, hfalsy, htext]
  · simp [secretText, hfalsy, Value.written_of_text? htext]

/-- The decoder of manifests agrees with the reference on plain values. -/
theorem dataBytes_eq_ok_iff (h : v.Holds p) {b : Bytes} :
    dataBytes v = .ok b ↔ p.IsBase64 ∧ b = p.decoded := by
  rw [dataBytes, secretText_of_holds h, dataText, Except.ok_bind, Except.mapError_eq_ok_iff,
    Plain.decodeText_eq_ok_iff]

/-- So does its encoder. -/
theorem stringBytes_eq_ok_iff (h : v.Holds p) {b : Bytes} :
    stringBytes v = .ok b ↔ p.IsEncodable ∧ b = p.encoded := by
  rw [← Plain.utf8?_eq_some_iff]
  simp only [stringBytes, secretText_of_holds h, Except.mapError_ok, Except.ok_bind]
  cases p.text.utf8? <;> simp

end Manifest

namespace ApiSecret

variable {v : Value} {p : Plain}

/-- The decoder of the API agrees with the reference on plain values. -/
theorem decodeValue_eq_ok_iff (h : v.Holds p) {c : Coordinate} {b : Bytes} :
    decodeValue c v = .ok b ↔ p.IsBase64 ∧ b = p.decoded := by
  rw [← Plain.decodeText_eq_ok_iff]
  rcases h.cases with ⟨hfalsy, htext⟩ | ⟨hfalsy, htext⟩
  · rw [decodeValue, if_pos hfalsy, htext, Base64.decodeText_nil]
    simp
  · simp only [decodeValue, hfalsy, Value.atom?_eq_text_iff.mpr htext, Bool.false_eq_true,
      if_false, Except.mapError_eq_ok_iff]

/-- So does its encoder. -/
theorem encodeValue_eq_ok_iff (h : v.Holds p) {b : Bytes} :
    encodeValue v = .ok b ↔ p.IsEncodable ∧ b = p.encoded := by
  rw [← Plain.utf8?_eq_some_iff]
  rcases h.cases with ⟨hfalsy, htext⟩ | ⟨hfalsy, htext⟩
  · rw [encodeValue, if_pos hfalsy, htext, Text.utf8?_nil]
    simp
  · simp only [encodeValue, hfalsy, htext, Bool.false_eq_true, if_false]
    cases p.text.utf8? <;> simp

end ApiSecret

/-! ## One field of a secret -/

/-- Plain values under keys. -/
abbrev PlainEntries := List (Text × Plain)

/-- The writes that the entries amount to. -/
def PlainEntries.writes (bytes : Plain → Bytes) (entries : PlainEntries) : List (Text × Bytes) :=
  entries.map fun e => (e.1, bytes e.2)

/-- Entries hold plain values one by one, under keys that stand for texts. -/
def EntriesHold {α : Type} (key : Text → α) (entries : List (α × Value))
    (plain : PlainEntries) : Prop :=
  List.Forall₂ (fun e p => e.1 = key p.1 ∧ e.2.Holds p.2) entries plain

/-- A decoder that takes each key and each value for what they hold succeeds when all the values can
be decoded, and what it writes is their bytes. -/
theorem EntriesHold.collect_eq_ok_iff {ε α : Type} {text : Text → α} {key : α → Except ε Text}
    {decode : Value → Except ε Bytes} {P : Plain → Prop} {bytes : Plain → Bytes}
    {entries : List (α × Value)} {plain : PlainEntries} (h : EntriesHold text entries plain)
    (hkey : ∀ t, key (text t) = .ok t)
    (hdecode : ∀ {v p}, v.Holds p → ∀ b, decode v = .ok b ↔ P p ∧ b = bytes p)
    {table data : SecretData} :
    SecretData.collect key decode entries table = .ok data ↔
      (∀ p ∈ plain, P p.2) ∧
        data = (plain.writes bytes).foldl (fun t e => t.insert e.1 e.2) table := by
  -- the table holds what was written before, so it differs from step to step
  induction h generalizing table with
  | nil => simp [SecretData.collect, PlainEntries.writes, pure, Except.pure, eq_comm]
  | @cons e p entries plain hhead htail ih =>
    rw [SecretData.collect_cons, hhead.1, hkey, Except.bind_eq_ok_iff]
    simp only [Except.ok_bind, hdecode hhead.2, ih, List.forall_mem_cons, PlainEntries.writes,
      List.map_cons, List.foldl_cons]
    constructor
    · rintro ⟨b, ⟨hp, rfl⟩, hrest, hdata⟩
      exact ⟨⟨hp, hrest⟩, hdata⟩
    · rintro ⟨⟨hp, hrest⟩, hdata⟩
      exact ⟨_, ⟨hp, rfl⟩, hrest, hdata⟩

/-! ## Plain secrets -/

/-- The plain values of a secret. Within a field no key occurs twice. -/
structure PlainSecret where
  /-- base64 texts -/
  data : PlainEntries
  /-- plain texts, which have bytes -/
  stringData : PlainEntries
  /-- the keys of the base64 texts are distinct -/
  data_nodup : (data.map Prod.fst).Nodup
  /-- the keys of the plain texts are distinct -/
  stringData_nodup : (stringData.map Prod.fst).Nodup
  /-- the plain texts have bytes -/
  encodable : ∀ e ∈ stringData, e.2.IsEncodable

namespace PlainSecret

/-- All the texts that should be base64 are. -/
def Decodable (s : PlainSecret) : Prop :=
  ∀ e ∈ s.data, e.2.IsBase64

/-- What the data come to. -/
def content (s : PlainSecret) : SecretData :=
  Table.ofWrites (s.data.writes Plain.decoded ++ s.stringData.writes Plain.encoded)

/-- Two secrets with the same entries in whatever order. -/
structure Perm (s t : PlainSecret) : Prop where
  /-- the same base64 texts -/
  data : s.data.Perm t.data
  /-- the same plain texts -/
  stringData : s.stringData.Perm t.stringData

/-- The content of a plain secret is written in one pass, the plain texts last. -/
theorem content_eq (s : PlainSecret) :
    s.content = (s.stringData.writes Plain.encoded).foldl (fun t e => t.insert e.1 e.2)
      (Table.ofWrites (s.data.writes Plain.decoded)) :=
  List.foldl_append

/-- The data are written field by field. -/
theorem exists_encoded_iff (s : PlainSecret) {data : SecretData} :
    (∃ encoded, (s.Decodable ∧ encoded = Table.ofWrites (s.data.writes Plain.decoded)) ∧
        data = (s.stringData.writes Plain.encoded).foldl (fun t e => t.insert e.1 e.2) encoded) ↔
      s.Decodable ∧ data = s.content := by
  rw [content_eq]
  constructor
  · rintro ⟨_, ⟨hs, rfl⟩, hdata⟩
    exact ⟨hs, hdata⟩
  · rintro ⟨hs, hdata⟩
    exact ⟨_, ⟨hs, rfl⟩, hdata⟩

theorem keys_writes (bytes : Plain → Bytes) (entries : PlainEntries) :
    (entries.writes bytes).map Prod.fst = entries.map Prod.fst := by
  rw [PlainEntries.writes, List.map_map]
  rfl

/-- Plain texts go before base64 texts. -/
theorem get?_content (s : PlainSecret) (key : Text) :
    s.content.get? key =
      ((Table.get? s.stringData key).map Plain.encoded).or
        ((Table.get? s.data key).map Plain.decoded) := by
  have hover : s.content = (Table.overwrite [] (s.data.writes Plain.decoded)).overwrite
      (s.stringData.writes Plain.encoded) := s.content_eq
  rw [hover, Table.get?_overwrite (by rw [keys_writes]; exact s.stringData_nodup),
    Table.get?_overwrite (by rw [keys_writes]; exact s.data_nodup), PlainEntries.writes,
    Table.get?_map, PlainEntries.writes, Table.get?_map, Table.get?_nil, Option.or_none]

variable {s t : PlainSecret}

theorem Perm.decodable_iff (h : s.Perm t) : s.Decodable ↔ t.Decodable :=
  ⟨fun hs e he => hs e (h.data.mem_iff.mpr he), fun ht e he => ht e (h.data.mem_iff.mp he)⟩

/-- What is under a key does not depend on the order of the entries. -/
theorem Perm.get?_content (h : s.Perm t) (key : Text) :
    s.content.get? key = t.content.get? key := by
  have hdata : (s.data.writes Plain.decoded).Perm (t.data.writes Plain.decoded) := h.data.map _
  have hstringData : (s.stringData.writes Plain.encoded).Perm
      (t.stringData.writes Plain.encoded) := h.stringData.map _
  rw [content_eq, content_eq]
  -- the plain texts may come in any order, over base64 texts that may as well
  refine Table.get?_foldl_insert_perm hstringData
    (by rw [keys_writes]; exact s.stringData_nodup) (fun k => ?_) key
  exact Table.get?_foldl_insert_perm hdata
    (by rw [keys_writes]; exact s.data_nodup) (fun _ => rfl) k

end PlainSecret

/-! ## The decoder of the API -/

namespace ApiSecret

/-- A reply shows a plain secret, with the entries in some order. -/
def Shows (s : ApiSecret) (p : PlainSecret) : Prop :=
  ∃ q : PlainSecret, q.Perm p ∧ EntriesHold id s.data q.data ∧
    EntriesHold id s.stringData q.stringData

variable {s : ApiSecret} {p q : PlainSecret} {c : Coordinate} {data : SecretData}

/-- The decoder of the API on entries in the order of the secret. -/
theorem decode_eq_ok_iff (hdata : EntriesHold id s.data q.data)
    (hstringData : EntriesHold id s.stringData q.stringData) :
    s.decode c = .ok data ↔ q.Decodable ∧ data = q.content := by
  have hfirst : ∀ encoded, SecretData.collect .ok (decodeValue c) s.data [] = .ok encoded ↔
      q.Decodable ∧ encoded = Table.ofWrites (q.data.writes Plain.decoded) := fun encoded =>
    hdata.collect_eq_ok_iff (fun _ => rfl) fun h _ => decodeValue_eq_ok_iff h
  have hsecond : ∀ encoded, SecretData.collect .ok encodeValue s.stringData encoded = .ok data ↔
      data = (q.stringData.writes Plain.encoded).foldl (fun t e => t.insert e.1 e.2) encoded :=
    fun encoded => (hstringData.collect_eq_ok_iff (fun _ => rfl) fun h _ =>
      encodeValue_eq_ok_iff h).trans (and_iff_right q.encodable)
  rw [decode, Except.bind_eq_ok_iff, ← q.exists_encoded_iff]
  simp only [hfirst, hsecond]

/-- A reply can be decoded if and only if the secret that it shows can be. -/
theorem Shows.exists_decode_iff (h : s.Shows p) (c : Coordinate) :
    (∃ data, s.decode c = .ok data) ↔ p.Decodable := by
  obtain ⟨q, hperm, hdata, hstringData⟩ := h
  simp only [decode_eq_ok_iff hdata hstringData, exists_and_left, exists_eq, and_true,
    hperm.decodable_iff]

/-- What is under the keys of a decoded reply. -/
theorem Shows.get?_of_decode (h : s.Shows p) (hdecode : s.decode c = .ok data) (key : Text) :
    data.get? key = p.content.get? key := by
  obtain ⟨q, hperm, hdata, hstringData⟩ := h
  obtain ⟨-, rfl⟩ := (decode_eq_ok_iff hdata hstringData).mp hdecode
  exact hperm.get?_content key

/-- Every key is decoded once. -/
theorem Shows.nodup_keys_of_decode (h : s.Shows p) (hdecode : s.decode c = .ok data) :
    (data.map Prod.fst).Nodup := by
  obtain ⟨q, -, hdata, hstringData⟩ := h
  obtain ⟨-, rfl⟩ := (decode_eq_ok_iff hdata hstringData).mp hdecode
  exact Table.nodup_keys_ofWrites _

end ApiSecret

end JenkinsAdmission
