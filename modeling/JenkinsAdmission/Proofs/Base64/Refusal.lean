import JenkinsAdmission.BuiltIn
import JenkinsAdmission.Key.Pem
import JenkinsAdmission.Proofs.Base64.Acceptance
import JenkinsAdmission.Proofs.Manifest.Breakdown
import JenkinsAdmission.Proofs.Manifest.Composition
import JenkinsAdmission.Proofs.Secret.Contract
import JenkinsAdmission.Proofs.Secret.Plain

/-!
# Malformed base64 is refused

Base64 is read in three places: in the secrets of a manifest, in the secrets of an API, and between
the markers of a PEM block. What becomes of a text there that is not base64?

* `Base64.IsWellFormedText` and `Base64.IsOverpaddedText` are about the characters of a text.
* `Base64.Refused` says that a text is read in none of the three places, and that manifests and APIs
  report it as far as nothing before it breaks down.
* `Base64.refused_iff` says that a text is refused if and only if it is neither well formed nor
  overpadded. So overpadded texts are all that is malformed and read nonetheless.
-/

namespace JenkinsAdmission

section

variable [Platform]

/-! ## Texts -/

namespace Base64

/-- A text of characters that are padded base64. -/
def IsWellFormedText (t : Text) : Prop :=
  ∃ b, t.ascii? = some b ∧ IsWellFormed b

/-- A text of characters that are overpadded base64. -/
def IsOverpaddedText (t : Text) : Prop :=
  ∃ b, t.ascii? = some b ∧ IsOverpadded b

variable {t : Text} {b : Bytes}

omit [Platform] in
/-- Decoding succeeds on the well-formed texts and the overpadded ones, and on no others. -/
theorem exists_decodeText_iff :
    (∃ bytes, decodeText t = .ok bytes) ↔ IsWellFormedText t ∨ IsOverpaddedText t := by
  unfold decodeText IsWellFormedText IsOverpaddedText
  cases t.ascii? with
  | none => simp
  | some b => simp [exists_decode_iff]

omit [Platform] in
theorem not_isOverpaddedText_of_isWellFormedText (h : IsWellFormedText t) :
    ¬IsOverpaddedText t := by
  rintro ⟨b, hb, hover⟩
  obtain ⟨b', hb', hwell⟩ := h
  obtain rfl : b = b' := Option.some.inj (hb.symm.trans hb')
  exact not_isOverpadded_of_isWellFormed hwell hover

omit [Platform] in
/-- Base64 is made of ASCII characters, so it makes no difference to read it as a text. -/
theorem exists_decodeText_ofAscii (h : ∃ bytes, decode b = .ok bytes) :
    ∃ bytes, decodeText (Text.ofAscii b) = .ok bytes := by
  have hform : ∃ data k, b = data ++ List.replicate k pad ∧ ∀ x ∈ data, IsDigit x := by
    rcases exists_decode_iff.mp h with ⟨data, k, hb, hdata, -⟩ | ⟨data, k, hb, hdata, -⟩
    · exact ⟨data, k, hb, hdata⟩
    · exact ⟨data, k, hb, hdata⟩
  obtain ⟨data, k, hb, hdata⟩ := hform
  have hascii : ∀ x ∈ b, x < 0x80 := by
    intro x hx
    rw [hb] at hx
    rcases List.mem_append.mp hx with hx | hx
    · exact lt_of_mem_alphabet (hdata x hx).1
    · rw [List.eq_of_mem_replicate hx]
      decide
  rw [decodeText, ascii?_ofAscii hascii]
  exact h

end Base64

/-! ## Manifests -/

omit [Platform] in
/-- The first entry of a list that is not as it should be is any such entry or stands before it. -/
theorem mem_or_eq_of_append_cons_eq {α : Type} {P : α → Prop} {before after first rest : List α}
    {e f : α} (h : before ++ e :: after = first ++ f :: rest) (hfirst : ∀ a ∈ first, P a)
    (he : ¬P e) : f ∈ before ∨ f = e := by
  rcases List.append_eq_append_iff.mp h with ⟨l, hl, hrest⟩ | ⟨l, hl, hrest⟩
  · cases l with
    | nil => exact .inr (List.cons.inj hrest).1.symm
    | cons d l =>
      obtain ⟨rfl, -⟩ := List.cons.inj hrest
      exact absurd (hfirst e (by simp [hl])) he
  · cases l with
    | nil => exact .inr (List.cons.inj hrest).1
    | cons d l =>
      obtain ⟨rfl, -⟩ := List.cons.inj hrest
      exact .inl (by simp [hl])

namespace Manifest

/-- A text is among the data of a document, after some entries. -/
def HasData (document : Value) (before : List (Atom × Value)) (t : Text) : Prop :=
  ∃ v e after, document.get? SecretField.data.key = some v ∧
    v.entries? = some (before ++ e :: after) ∧ e.2.text? = some t

variable (path defaultNamespace : Text) {document : Value} {first : List (Atom × Value)} {t : Text}

/-- Data with a text that cannot be decoded are not taken. They are rejected unless one of the
values before the text is too deep. -/
theorem secretData_ne_ok (h : HasData document first t)
    (ht : ¬∃ bytes, Base64.decodeText t = .ok bytes) :
    (∀ data, secretData path document ≠ .ok data) ∧
      ((∀ b ∈ first, secretText b.2 ≠ .error .tooDeep) →
        ∃ defect, secretData path document = .error (.rejected defect)) := by
  obtain ⟨v, e, rest, hv, hentries, htext⟩ := h
  have hholds : e.2.Holds (some t) := htext
  have hfalsy : v.isFalsy = false := by
    rw [Value.isFalsy_of_entries? hentries]
    simp
  have hfield : secretEntries document .data = .ok (first ++ e :: rest) := by
    simp only [secretEntries, Value.given?_of_not_isFalsy hv hfalsy, hentries]
  have hwrite : ¬∃ w, SecretData.write dataKey dataBytes e = .ok w := by
    rintro ⟨w, hw⟩
    obtain ⟨bytes, hbytes, -⟩ := Except.bind_eq_ok_iff.mp hw
    exact ht ((dataBytes_eq_ok_iff hholds).mp hbytes).1
  have hcollect : ∀ data, SecretData.collect dataKey dataBytes (first ++ e :: rest) [] ≠ .ok data :=
    fun data hdata => hwrite (SecretData.exists_collect_iff.mp ⟨data, hdata⟩ e (by simp))
  cases hfault : (SecretData.collect dataKey dataBytes (first ++ e :: rest) []).mapError
      (dataFault path) with
  | ok data => exact absurd (Except.mapError_eq_ok_iff.mp hfault) (hcollect data)
  | error fault =>
    have hdata : secretData path document = .error fault := by
      rw [secretData, hfield, Except.mapError_ok, Except.ok_bind, hfault, Except.error_bind]
    rw [hdata]
    refine ⟨fun _ h => (by cases h), fun hfirst => ?_⟩
    cases fault with
    | rejected defect => exact ⟨defect, rfl⟩
    | broken cause =>
      -- what breaks the data down is the text itself, which does not, or a value before it
      obtain ⟨before, f, after, hsplit, ⟨data, hbefore⟩, hdeep⟩ :=
        breaks_encoded_iff.mp ⟨cause, hfault⟩
      rcases mem_or_eq_of_append_cons_eq hsplit (SecretData.exists_collect_iff.mp ⟨data, hbefore⟩)
        hwrite with hmem | rfl
      · exact absurd hdeep (hfirst f hmem)
      · rw [secretText_of_holds hholds] at hdeep
        cases hdeep

/-- The name is looked at before the data, and texts are only written after them. -/
theorem secret_ne_ok (h : HasData document first t)
    (ht : ¬∃ bytes, Base64.decodeText t = .ok bytes) :
    (∀ entry, secret path defaultNamespace document ≠ .ok entry) ∧
      ((∀ b ∈ first, secretText b.2 ≠ .error .tooDeep) →
        ∃ defect, secret path defaultNamespace document = .error (.rejected defect)) := by
  unfold secret
  cases secretMetadata document with
  | error defect => exact ⟨fun _ h => (by cases h), fun _ => ⟨.secret path defect, rfl⟩⟩
  | ok named =>
    obtain ⟨hdata, hrejected⟩ := secretData_ne_ok path h ht
    rw [Except.mapError_ok, Except.ok_bind]
    constructor
    · intro entry hentry
      obtain ⟨data, hok, -⟩ := Except.bind_eq_ok_iff.mp hentry
      exact hdata data hok
    · intro hfirst
      obtain ⟨defect, hdefect⟩ := hrejected hfirst
      exact ⟨defect, by rw [hdefect]; rfl⟩

/-- A stream with such data is not loaded. It has the fault of the documents before them or is
rejected, unless it breaks down at a value before the text. -/
theorem secretsOf_ne_ok (hkind : isSecret document = true) (h : HasData document first t)
    (ht : ¬∃ bytes, Base64.decodeText t = .ok bytes) (before after : List Value) :
    (∀ secrets, secretsOf path defaultNamespace (before ++ document :: after) ≠ .ok secrets) ∧
      (¬Breaks (secretsOf path defaultNamespace before) →
        (∀ b ∈ first, secretText b.2 ≠ .error .tooDeep) →
        ∃ defect, secretsOf path defaultNamespace (before ++ document :: after) =
          .error (.rejected defect)) := by
  obtain ⟨hsecret, hrejected⟩ := secret_ne_ok path defaultNamespace h ht
  -- a secret that stands first is added to no others
  have hrest : secretsOf path defaultNamespace (document :: after) =
      secret path defaultNamespace document >>= fun entry =>
        after.foldlM (addDocument path defaultNamespace) (Table.insert [] entry.1 entry.2) := by
    rw [secretsOf, List.foldlM_cons, addDocument, if_pos hkind]
    cases secret path defaultNamespace document <;> rfl
  rw [secretsOf_append, hrest]
  cases secretsOf path defaultNamespace before with
  -- the documents before it have a fault of their own
  | error fault =>
    refine ⟨fun _ h => (by cases h), fun hbreaks _ => ?_⟩
    cases fault with
    | rejected defect => exact ⟨defect, rfl⟩
    | broken cause => exact absurd ⟨cause, rfl⟩ hbreaks
  | ok secrets =>
    rw [Except.ok_bind]
    constructor
    · intro loaded hloaded
      obtain ⟨_, hok, -⟩ := Except.bind_eq_ok_iff.mp hloaded
      obtain ⟨entry, hentry, -⟩ := Except.bind_eq_ok_iff.mp hok
      exact hsecret entry hentry
    · intro _ hfirst
      obtain ⟨defect, hdefect⟩ := hrejected hfirst
      exact ⟨defect, by rw [hdefect]; rfl⟩

end Manifest

/-! ## The API -/

namespace ApiSecret

variable {s : ApiSecret} {c : Coordinate} {v : Value} {t : Text} {fault : LookupFault}

omit [Platform] in
/-- A value of the right type that cannot be decoded is reported as malformed. -/
theorem exists_eq_malformed_of_decodeValue (h : decodeValue c v = .error fault)
    (hv : ¬v.IsUntyped) : ∃ defect, fault = .malformed c defect := by
  have hbroken : ∀ cause, fault ≠ .broken cause := by
    rintro cause rfl
    exact hv (exists_decodeValue_eq_broken_iff.mp ⟨cause, h⟩)
  unfold decodeValue at h
  split at h
  · cases h
  · split at h
    · obtain ⟨defect, -, hdefect⟩ := Except.mapError_eq_error_iff.mp h
      exact ⟨defect, hdefect.symm⟩
    · obtain ⟨defect, -, hdefect⟩ := Except.mapError_eq_error_iff.mp h
      exact ⟨defect, hdefect.symm⟩
    · cases h
      exact absurd rfl (hbroken _)

omit [Platform] in
/-- A text that cannot be decoded is not base64. -/
theorem not_isBase64_of_text? (hv : v.text? = some t)
    (ht : ¬∃ bytes, Base64.decodeText t = .ok bytes) : ¬v.IsBase64 := by
  intro h
  have hholds : v.Holds (some t) := hv
  obtain ⟨bytes, hbytes⟩ := (exists_decodeValue_iff (c := ⟨[], []⟩)).mpr h
  exact ht ((decodeValue_eq_ok_iff hholds).mp hbytes).1

omit [Platform] in
theorem not_isUntyped_of_text? (hv : v.text? = some t) : ¬v.IsUntyped := fun h =>
  h.not_text t (Value.atom?_eq_text_iff.mpr hv)

variable {before after : List (Text × Value)} {e : Text × Value}

omit [Platform] in
/-- A payload with a text that cannot be decoded has no data. If there are only texts and bytes
before it, this is reported. -/
theorem decode_eq_malformed (hs : s.data = before ++ e :: after) (he : e.2.text? = some t)
    (ht : ¬∃ bytes, Base64.decodeText t = .ok bytes) :
    (∀ data, s.decode c ≠ .ok data) ∧
      ((∀ b ∈ before, ¬b.2.IsUntyped) → ∃ defect, s.decode c = .error (.malformed c defect)) := by
  have hmem : e ∈ s.data := by
    simp [hs]
  have hnot : ¬e.2.IsBase64 := not_isBase64_of_text? he ht
  have hfails : ∀ data, s.decode c ≠ .ok data := fun data hdata =>
    hnot ((exists_decode_iff.mp ⟨data, hdata⟩).data e hmem)
  refine ⟨hfails, fun hbefore => ?_⟩
  cases hdecode : s.decode c with
  | ok data => exact absurd hdecode (hfails data)
  | error fault =>
    -- the first value that cannot be decoded, which may stand before the given one
    rcases decode_eq_error_iff.mp hdecode with
      ⟨first, f, rest, hs', hfirst, hf⟩ | ⟨hall, -⟩
    · have htyped : ¬f.2.IsUntyped := by
        rcases mem_or_eq_of_append_cons_eq (hs.symm.trans hs') hfirst hnot with hf | rfl
        · exact hbefore f hf
        · exact not_isUntyped_of_text? he
      obtain ⟨defect, rfl⟩ := exists_eq_malformed_of_decodeValue hf htyped
      exact ⟨defect, rfl⟩
    · exact absurd (hall e hmem) hnot

end ApiSecret

/-! ## The three places -/

namespace Base64

/-- A text is refused wherever base64 is read. -/
structure Refused (t : Text) : Prop where
  /-- no stream is loaded that has the text among the data of a secret, and it is rejected unless
  something breaks down before: a document, or a value of the secret that is too deep -/
  manifest : ∀ path defaultNamespace before document first after,
    Manifest.isSecret document = true → Manifest.HasData document first t →
    (∀ secrets, Manifest.secretsOf path defaultNamespace (before ++ document :: after) ≠
      .ok secrets) ∧
    (¬Manifest.Breaks (Manifest.secretsOf path defaultNamespace before) →
      (∀ b ∈ first, Manifest.secretText b.2 ≠ .error .tooDeep) →
      ∃ defect, Manifest.secretsOf path defaultNamespace (before ++ document :: after) =
        .error (.rejected defect))
  /-- no secret of an API is read that has the text among its data, and it is reported as malformed
  unless something before is neither text nor bytes -/
  api : ∀ (api : Api) c s before e after, api c = .secret s → s.data = before ++ e :: after →
    e.2.text? = some t →
    (∀ data, api.store.get c ≠ .ok data) ∧
    ((∀ b ∈ before, ¬b.2.IsUntyped) →
      ∃ defect, api.store.get c = .error (.malformed c defect))
  /-- no PEM block with the text as its payload has content -/
  pem : ∀ data block, Pem.firstBlock? data = some block →
    Text.ofAscii (Pem.payload block.body) = t → Pem.decode? data = none

variable {t : Text}

/-- A text that cannot be decoded is refused wherever it is given. -/
theorem refused_of_not_decodable (ht : ¬∃ bytes, decodeText t = .ok bytes) : Refused t where
  manifest := fun path defaultNamespace before _ _ after hkind h =>
    Manifest.secretsOf_ne_ok path defaultNamespace hkind h ht before after
  api := by
    intro api c s before e after hreply hs he
    have hget : api.store.get c = s.decode c := by
      simp only [Api.store, hreply, ApiReply.resolve]
    rw [hget]
    exact ApiSecret.decode_eq_malformed hs he ht
  pem := by
    intro data block hblock hpayload
    simp only [Pem.decode?, hblock]
    cases hdecode : decode (Pem.payload block.body) with
    | error defect => rfl
    | ok bytes => exact absurd (hpayload ▸ exists_decodeText_ofAscii ⟨bytes, hdecode⟩) ht

/-- A text that can be decoded is read from an API that serves it. -/
theorem not_refused_of_decodable {bytes : Bytes} (ht : decodeText t = .ok bytes) :
    ¬Refused t := by
  intro h
  let s : ApiSecret := ⟨[("k", .ofAtom (.text t))], []⟩
  have hwell : s.IsWellFormed := by
    refine ⟨fun e he => ?_, nofun⟩
    obtain rfl := List.mem_singleton.mp he
    exact .text rfl ht
  obtain ⟨data, hdata⟩ := (ApiSecret.exists_decode_iff (c := ⟨"ns", "s"⟩)).mpr hwell
  exact (h.api (fun _ => .secret s) ⟨"ns", "s"⟩ s [] _ [] rfl rfl rfl).1 data hdata

/-- **What is neither well formed nor overpadded is refused** in manifests, by the store of a
cluster and in PEM blocks, and nothing else is. So malformed texts are refused exactly as far as
they are not overpadded. -/
theorem refused_iff (t : Text) :
    (Refused t ↔ ¬IsWellFormedText t ∧ ¬IsOverpaddedText t) ∧
    ((¬IsWellFormedText t → Refused t) ↔ ¬IsOverpaddedText t) := by
  have hrefused : Refused t ↔ ¬IsWellFormedText t ∧ ¬IsOverpaddedText t := by
    rw [← not_or, ← exists_decodeText_iff]
    exact ⟨fun h ⟨_, ht⟩ => not_refused_of_decodable ht h, refused_of_not_decodable⟩
  refine ⟨hrefused, fun h hover => ?_, fun hover hmalformed => hrefused.mpr ⟨hmalformed, hover⟩⟩
  have hmalformed : ¬IsWellFormedText t := fun hwell =>
    not_isOverpaddedText_of_isWellFormedText hwell hover
  exact (hrefused.mp (h hmalformed)).2 hover

end Base64

end

namespace Base64

open scoped BuiltIn

/-- A full group with a padding character behind it is not well formed, and it is read in all three
places. -/
theorem not_refused_overpadded :
    ¬(¬IsWellFormedText "AAAA=" → Refused "AAAA=") ∧
    Manifest.secretsOf "secrets.yaml" "default" [Tree.toValue (.mapping [
        (.text "kind", .atom (.text "Secret")),
        (.text "metadata", .mapping [(.text "name", .atom (.text "s"))]),
        (.text "data", .mapping [(.text "k", .atom (.text "AAAA="))])])] =
      .ok [(⟨"default", "s"⟩, [("k", [0, 0, 0])])] ∧
    (Api.store fun _ => .secret ⟨[("k", .ofAtom (.text "AAAA="))], []⟩).get ⟨"default", "s"⟩ =
      .ok [("k", [0, 0, 0])] ∧
    Pem.decode? (Bytes.ofString "-----BEGIN A-----\nAAAA=\n-----END A-----\n") =
      some ⟨Bytes.ofString "A", [0, 0, 0]⟩ := by
  refine ⟨?_, by decide +kernel, by decide +kernel, by decide +kernel⟩
  have hdigits : ∀ x ∈ Bytes.ofString "AAAA", x ∈ alphabet ∧ x ≠ pad := by
    decide +kernel
  have hover : IsOverpaddedText "AAAA=" :=
    ⟨_, rfl, Bytes.ofString "AAAA", 1, rfl, hdigits, by decide, ⟨1, rfl⟩, by decide⟩
  have hmalformed : ¬IsWellFormedText "AAAA=" := fun hwell =>
    not_isOverpaddedText_of_isWellFormedText hwell hover
  have hread : decodeText "AAAA=" = .ok [0, 0, 0] := by
    decide
  exact fun h => not_refused_of_decodable hread (h hmalformed)

end Base64

end JenkinsAdmission
