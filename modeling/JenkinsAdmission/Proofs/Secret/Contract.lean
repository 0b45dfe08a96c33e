import JenkinsAdmission.BuiltIn
import JenkinsAdmission.Proofs.Gate.Course
import JenkinsAdmission.Proofs.Manifest.Ending
import JenkinsAdmission.Proofs.Secret.Collected
import JenkinsAdmission.Secret.Api

/-!
# The contract of the store of a cluster

Whatever an API answers, its store should serve data or a fault that can be told to somebody.

* `ApiSecret.IsWellFormed` holds of the payloads that have data, and `ApiReply.Fails` of every
  answer that has none: a failure, no connection, a malformed payload.
* `Api.KeepsContract` is what a lookup promises: data unless the answer fails, else a fault with a
  wording, which is "not found" for a status of 404 alone, and one read in any case.
* `ApiReply.Unreportable` are the answers for which no wording is found. Two decoders go through a
  payload, and only the first of them reports what it cannot decode, as long as it is given texts
  or bytes.
* `Api.keepsContract_iff` says that these answers are all that stands in the way.
-/

namespace JenkinsAdmission

section

variable [Platform]

/-! ## Answers and what they promise -/

/-- A value of the data that has bytes. -/
inductive Value.IsBase64 (v : Value) : Prop
  /-- nothing, which is empty -/
  | absent (h : v.isFalsy = true)
  /-- a text in base64 -/
  | text {t : Text} {b : Bytes} (h : v.atom? = some (.text t)) (ht : Base64.decodeText t = .ok b)
  /-- bytes in base64 -/
  | bytes {encoded b : Bytes} (h : v.atom? = some (.bytes encoded))
    (hencoded : Base64.decode encoded = .ok b)

/-- A value of the data that could not be base64: it is something, but no text and no bytes. -/
structure Value.IsUntyped (v : Value) : Prop where
  /-- there is something -/
  present : v.isFalsy = false
  /-- it is no text -/
  not_text : ∀ t, v.atom? ≠ some (.text t)
  /-- it is no sequence of bytes -/
  not_bytes : ∀ b, v.atom? ≠ some (.bytes b)

/-- A value of the string data that has bytes. -/
inductive Value.IsEncodable (v : Value) : Prop
  /-- nothing, which is empty -/
  | absent (h : v.isFalsy = true)
  /-- a text without lone surrogates -/
  | text {t : Text} {b : Bytes} (h : v.text? = some t) (ht : t.utf8? = some b)

namespace ApiSecret

/-- Every value has bytes. -/
structure IsWellFormed (s : ApiSecret) : Prop where
  /-- the data are base64 -/
  data : ∀ e ∈ s.data, e.2.IsBase64
  /-- the string data are texts that have bytes -/
  stringData : ∀ e ∈ s.stringData, e.2.IsEncodable

/-- A malformed payload for which no wording is found. -/
inductive Unreportable (s : ApiSecret) : Prop
  /-- a value of the data that is neither text nor bytes, where the values before it are base64 -/
  | data {before after : List (Text × Value)} {e : Text × Value} (h : s.data = before ++ e :: after)
    (hbefore : ∀ b ∈ before, b.2.IsBase64) (he : e.2.IsUntyped)
  /-- any value of the string data that has no bytes, where the data are base64 -/
  | stringData {e : Text × Value} (hdata : ∀ e ∈ s.data, e.2.IsBase64) (h : e ∈ s.stringData)
    (he : ¬e.2.IsEncodable)

end ApiSecret

namespace ApiReply

/-- An API failure with a status that is equal to 404. -/
def IsMissing (reply : ApiReply) : Prop :=
  ∃ status reason a, reply = .failure status reason ∧ status.atom? = some a ∧
    a.same (.int 404) = true

/-- An answer without data. -/
inductive Fails : ApiReply → Prop
  /-- the API failed -/
  | failure (status reason : Value) : Fails (.failure status reason)
  /-- there is no connection -/
  | unreachable (detail : Text) : Fails (.unreachable detail)
  /-- the payload is malformed -/
  | malformed {s : ApiSecret} (h : ¬s.IsWellFormed) : Fails (.secret s)

/-- An answer without data for which no wording is found. -/
inductive Unreportable : ApiReply → Prop
  /-- some malformed payloads -/
  | secret {s : ApiSecret} (h : s.Unreportable) : Unreportable (.secret s)
  /-- a failure other than 404 whose status or reason cannot be written -/
  | failure {status reason : Value} (hstatus : ¬(failure status reason).IsMissing)
    (h : status.Unwritable ∨ reason.Unwritable) : Unreportable (.failure status reason)

end ApiReply

/-- What the store of an API promises for a lookup. -/
structure Api.KeepsContract (api : Api) (c : Coordinate) : Prop where
  /-- there are data unless the answer of the API fails -/
  serves_iff : (∃ data, api.store.get c = .ok data) ↔ ¬(api c).Fails
  /-- every fault has a wording -/
  reports : ∀ fault, api.store.get c = .error fault → ∃ words, fault.message? = some words
  /-- a secret is missing exactly for the status 404, and it is the one that was asked for -/
  notFound_iff : ∀ secret, api.store.get c = .error (.notFound secret) ↔
    secret = c ∧ (api c).IsMissing
  /-- the API is read once -/
  readsOnce : (api.store.lookUp c).trace = [.lookedUp .cluster c] ∧
    (api.store.lookUp? c).trace = [.lookedUp .cluster c]

/-! ## Decoding a value -/

namespace ApiSecret

variable {s : ApiSecret} {v : Value} {c : Coordinate} {fault : LookupFault}

omit [Platform] in
/-- A value is decoded if it is base64, as the contract has it. -/
theorem exists_decodeValue_iff : (∃ b, decodeValue c v = .ok b) ↔ v.IsBase64 := by
  constructor
  · rintro ⟨b, hb⟩
    unfold decodeValue at hb
    split at hb
    · next hfalsy => exact .absent hfalsy
    · split at hb
      · next t ht => exact .text ht (Except.mapError_eq_ok_iff.mp hb)
      · next encoded hencoded => exact .bytes hencoded (Except.mapError_eq_ok_iff.mp hb)
      · cases hb
  · intro h
    -- an empty text counts as absent before it is looked at as a text
    cases hfalsy : v.isFalsy with
    | true => exact ⟨[], by rw [decodeValue, if_pos hfalsy]⟩
    | false =>
      cases h with
      | absent h => rw [h] at hfalsy; cases hfalsy
      | text h ht => simp [decodeValue, hfalsy, h, ht]
      | bytes h hencoded => simp [decodeValue, hfalsy, h, hencoded]

omit [Platform] in
/-- What is not decoded is not base64. -/
theorem not_isBase64_of_decodeValue (h : decodeValue c v = .error fault) : ¬v.IsBase64 := by
  intro hbase64
  obtain ⟨b, hb⟩ := exists_decodeValue_iff.mpr hbase64
  rw [h] at hb
  cases hb

omit [Platform] in
/-- Only a value of another type is not reported. -/
theorem exists_decodeValue_eq_broken_iff :
    (∃ cause, decodeValue c v = .error (.broken cause)) ↔ v.IsUntyped := by
  constructor
  · rintro ⟨cause, hcause⟩
    unfold decodeValue at hcause
    split at hcause
    · cases hcause
    · next hpresent =>
      split at hcause
      · obtain ⟨_, -, h⟩ := Except.mapError_eq_error_iff.mp hcause
        cases h
      · obtain ⟨_, -, h⟩ := Except.mapError_eq_error_iff.mp hcause
        cases h
      · next htext hbytes => exact ⟨Bool.eq_false_iff.mpr hpresent, htext, hbytes⟩
  · rintro ⟨hpresent, htext, hbytes⟩
    refine ⟨.untypedData, ?_⟩
    simp only [decodeValue, hpresent, Bool.false_eq_true, if_false]

omit [Platform] in
/-- Decoding a value never tells that a secret is missing. -/
theorem decodeValue_ne_notFound (secret : Coordinate) :
    decodeValue c v ≠ .error (.notFound secret) := by
  unfold decodeValue
  split
  · nofun
  · split <;> simp [Except.mapError_eq_error_iff]

omit [Platform] in
/-- A plain value is encoded if it has bytes. -/
theorem exists_encodeValue_iff : (∃ b, encodeValue v = .ok b) ↔ v.IsEncodable := by
  constructor
  · rintro ⟨b, hb⟩
    unfold encodeValue at hb
    split at hb
    · next hfalsy => exact .absent hfalsy
    · split at hb
      · cases hb
      · next t ht =>
        cases hutf8 : t.utf8? with
        | none => simp [hutf8] at hb
        | some bytes => exact .text ht hutf8
  · intro h
    cases hfalsy : v.isFalsy with
    | true => exact ⟨[], by rw [encodeValue, if_pos hfalsy]⟩
    | false =>
      cases h with
      | absent h => rw [h] at hfalsy; cases hfalsy
      | text h ht => simp [encodeValue, hfalsy, h, ht]

omit [Platform] in
theorem not_isEncodable_of_encodeValue (h : encodeValue v = .error fault) : ¬v.IsEncodable := by
  intro hencodable
  obtain ⟨b, hb⟩ := exists_encodeValue_iff.mpr hencodable
  rw [h] at hb
  cases hb

omit [Platform] in
/-- Nothing is ever reported about a value of the string data. -/
theorem exists_eq_broken_of_encodeValue (h : encodeValue v = .error fault) :
    ∃ cause, fault = .broken cause := by
  unfold encodeValue at h
  split at h
  · cases h
  · split at h
    · exact ⟨_, (Except.error.inj h).symm⟩
    · split at h
      · cases h
      · exact ⟨_, (Except.error.inj h).symm⟩

/-! ## Decoding a payload -/

omit [Platform] in
theorem exists_collect_data_iff :
    (∃ data, SecretData.collect .ok (decodeValue c) s.data [] = .ok data) ↔
      ∀ e ∈ s.data, e.2.IsBase64 := by
  simp only [SecretData.exists_collect_iff, SecretData.exists_write_iff, exists_decodeValue_iff]

omit [Platform] in
theorem exists_collect_stringData_iff {data : SecretData} :
    (∃ all, SecretData.collect .ok encodeValue s.stringData data = .ok all) ↔
      ∀ e ∈ s.stringData, e.2.IsEncodable := by
  simp only [SecretData.exists_collect_iff, SecretData.exists_write_iff, exists_encodeValue_iff]

omit [Platform] in
/-- A payload is decoded if it is well formed in both parts. -/
theorem exists_decode_iff : (∃ data, s.decode c = .ok data) ↔ s.IsWellFormed := by
  simp only [decode, Except.bind_eq_ok_iff]
  constructor
  · rintro ⟨all, data, hdata, hall⟩
    exact ⟨exists_collect_data_iff.mp ⟨data, hdata⟩, exists_collect_stringData_iff.mp ⟨all, hall⟩⟩
  · intro h
    obtain ⟨data, hdata⟩ := exists_collect_data_iff.mpr h.data
    obtain ⟨all, hall⟩ := exists_collect_stringData_iff.mpr h.stringData
    exact ⟨all, data, hdata, hall⟩

omit [Platform] in
/-- The fault of a payload is that of its first value without bytes, and the data come first. -/
theorem decode_eq_error_iff :
    s.decode c = .error fault ↔
      (∃ before e after, s.data = before ++ e :: after ∧ (∀ b ∈ before, b.2.IsBase64) ∧
        decodeValue c e.2 = .error fault) ∨
      ((∀ e ∈ s.data, e.2.IsBase64) ∧ ∃ before e after, s.stringData = before ++ e :: after ∧
        (∀ b ∈ before, b.2.IsEncodable) ∧ encodeValue e.2 = .error fault) := by
  rw [← exists_collect_data_iff (c := c)]
  simp only [decode, Except.bind_eq_error_iff, SecretData.collect_eq_error_iff,
    SecretData.exists_write_iff, SecretData.write_eq_error_iff, exists_decodeValue_iff,
    exists_encodeValue_iff, exists_and_right]

omit [Platform] in
/-- Nor does decoding a payload tell that a secret is missing. -/
theorem decode_ne_notFound (secret : Coordinate) : s.decode c ≠ .error (.notFound secret) := by
  intro h
  rcases decode_eq_error_iff.mp h with ⟨_, e, _, -, -, he⟩ | ⟨-, _, e, _, -, -, he⟩
  · exact decodeValue_ne_notFound secret he
  · obtain ⟨cause, hcause⟩ := exists_eq_broken_of_encodeValue he
    cases hcause

omit [Platform] in
/-- A payload breaks down without a report in one way only. -/
theorem exists_decode_eq_broken_iff :
    (∃ cause, s.decode c = .error (.broken cause)) ↔ s.Unreportable := by
  constructor
  · rintro ⟨cause, h⟩
    rcases decode_eq_error_iff.mp h with
      ⟨before, e, after, hs, hbefore, he⟩ | ⟨hdata, before, e, after, hs, -, he⟩
    · exact .data hs hbefore (exists_decodeValue_eq_broken_iff.mp ⟨cause, he⟩)
    · have hmem : e ∈ s.stringData := by
        simp [hs]
      exact .stringData hdata hmem (not_isEncodable_of_encodeValue he)
  · intro h
    cases h with
    | @data before after e hs hbefore he =>
      obtain ⟨cause, hcause⟩ := exists_decodeValue_eq_broken_iff.mpr he
      exact ⟨cause, decode_eq_error_iff.mpr (.inl ⟨before, e, after, hs, hbefore, hcause⟩)⟩
    | @stringData e hdata hmem he =>
      cases hdecode : s.decode c with
      | ok data => exact absurd ((exists_decode_iff.mp ⟨data, hdecode⟩).stringData e hmem) he
      | error fault =>
        -- the data have bytes, so this is the fault of some value of the string data
        rcases decode_eq_error_iff.mp hdecode with
          ⟨before, d, after, hs, -, hd⟩ | ⟨-, _, d, _, -, -, hd⟩
        · have hmem : d ∈ s.data := by
            simp [hs]
          exact absurd (hdata d hmem) (not_isBase64_of_decodeValue hd)
        · obtain ⟨cause, rfl⟩ := exists_eq_broken_of_encodeValue hd
          exact ⟨cause, rfl⟩

end ApiSecret

/-! ## What an answer amounts to -/

omit [Platform] in
/-- The status is compared as a number, so that other kinds of numbers count as well. -/
theorem Value.isNotFoundStatus_iff {status : Value} :
    status.isNotFoundStatus = true ↔ ∃ a, status.atom? = some a ∧ a.same (.int 404) = true := by
  rw [isNotFoundStatus]
  cases status.atom? with
  | none => simp
  | some a =>
    have hsame : a.same (.int 404) = (a.integer? == some 404) := by
      unfold Atom.same
      cases a.integer? <;> rfl
    simp [hsame]

namespace ApiReply

variable {reply : ApiReply} {c secret : Coordinate} {status reason : Value}

omit [Platform] in
theorem isMissing_failure_iff :
    (failure status reason).IsMissing ↔ status.isNotFoundStatus = true := by
  rw [Value.isNotFoundStatus_iff]
  constructor
  · rintro ⟨_, _, a, heq, ha⟩
    cases heq
    exact ⟨a, ha⟩
  · rintro ⟨a, ha⟩
    exact ⟨status, reason, a, rfl, ha⟩

theorem resolve_failure_of_missing (h : (failure status reason).IsMissing) :
    (failure status reason).resolve c = .error (.notFound c) := by
  rw [resolve, if_pos (isMissing_failure_iff.mp h)]

/-- A failure other than 404 is told with its status and its reason, if these can be written. -/
theorem resolve_failure_of_not_missing (h : ¬(failure status reason).IsMissing) :
    (failure status reason).resolve c =
      match status.written, reason.written with
      | .ok status, .ok reason => .error (.refused c status reason)
      | .error cause, _ => .error (.broken cause)
      | .ok _, .error cause => .error (.broken cause) :=
  if_neg fun hstatus => h (isMissing_failure_iff.mpr hstatus)

/-- An answer has data unless it fails. -/
theorem exists_resolve_iff : (∃ data, reply.resolve c = .ok data) ↔ ¬reply.Fails := by
  cases reply with
  | secret s =>
    refine ApiSecret.exists_decode_iff.trans ⟨fun h hfails => ?_, fun h => ?_⟩
    · cases hfails with
      | malformed hmalformed => exact hmalformed h
    · by_contra hmalformed
      exact h (.malformed hmalformed)
  | failure status reason =>
    refine iff_of_false ?_ (not_not_intro (.failure status reason))
    by_cases hmissing : (failure status reason).IsMissing
    · simp [resolve_failure_of_missing hmissing]
    · rw [resolve_failure_of_not_missing hmissing]
      cases status.written <;> cases reason.written <;> simp
  | unreachable detail => exact iff_of_false nofun (not_not_intro (.unreachable detail))

/-- Only an answer that says so is one for a missing secret. -/
theorem resolve_eq_notFound_iff :
    reply.resolve c = .error (.notFound secret) ↔ secret = c ∧ reply.IsMissing := by
  cases reply with
  | secret s => exact iff_of_false (ApiSecret.decode_ne_notFound secret) nofun
  | failure status reason =>
    by_cases hmissing : (failure status reason).IsMissing
    · simp [resolve_failure_of_missing hmissing, hmissing, eq_comm]
    · refine iff_of_false ?_ fun h => hmissing h.2
      rw [resolve_failure_of_not_missing hmissing]
      cases status.written <;> cases reason.written <;> simp
  | unreachable detail => exact iff_of_false nofun nofun

/-- What an answer does not report is what the contract leaves out. -/
theorem exists_resolve_eq_broken_iff :
    (∃ cause, reply.resolve c = .error (.broken cause)) ↔ reply.Unreportable := by
  cases reply with
  | secret s =>
    refine ApiSecret.exists_decode_eq_broken_iff.trans ⟨.secret, fun h => ?_⟩
    cases h with
    | secret h => exact h
  | failure status reason =>
    by_cases hmissing : (failure status reason).IsMissing
    · refine iff_of_false (by simp [resolve_failure_of_missing hmissing]) fun h => ?_
      cases h with
      | failure hstatus _ => exact hstatus hmissing
    · -- the status is written first, but it does not matter which of both cannot be written
      rw [resolve_failure_of_not_missing hmissing]
      constructor
      · rintro ⟨cause, hcause⟩
        refine .failure hmissing ?_
        unfold Value.Unwritable
        cases hstatus : status.written with
        | error cause => exact .inl ⟨cause, rfl⟩
        | ok text =>
          cases hreason : reason.written with
          | error cause => exact .inr ⟨cause, rfl⟩
          | ok words => simp [hstatus, hreason] at hcause
      · intro h
        cases h with
        | failure _ h =>
          rcases h with ⟨cause, h⟩ | ⟨cause, h⟩ <;> rw [h]
          · exact ⟨cause, rfl⟩
          · cases status.written with
            | error first => exact ⟨first, rfl⟩
            | ok text => exact ⟨cause, rfl⟩
  | unreachable detail =>
    constructor
    · rintro ⟨cause, hcause⟩
      cases hcause
    · intro h
      cases h

end ApiReply

/-! ## The contract -/

omit [Platform] in
/-- A fault has a wording unless the run broke down. -/
theorem LookupFault.exists_message?_iff {fault : LookupFault} :
    (∃ words, fault.message? = some words) ↔ ∀ cause, fault ≠ .broken cause := by
  cases fault <;> simp [message?]

namespace Api

/-- **The store of a cluster reports every fault of the API except some.** Its contract for a lookup
is kept exactly if the answer is not one of those for which no wording is found. Whether there are
data, whether the secret is missing, and that the API is read once holds for those answers too. -/
theorem keepsContract_iff (api : Api) (c : Coordinate) :
    (api.KeepsContract c ↔ ¬(api c).Unreportable) ∧
    ((∃ data, api.store.get c = .ok data) ↔ ¬(api c).Fails) ∧
    (∀ secret, api.store.get c = .error (.notFound secret) ↔ secret = c ∧ (api c).IsMissing) ∧
    (api.store.lookUp c).trace = [.lookedUp .cluster c] ∧
    (api.store.lookUp? c).trace = [.lookedUp .cluster c] := by
  have hserves : (∃ data, api.store.get c = .ok data) ↔ ¬(api c).Fails :=
    ApiReply.exists_resolve_iff
  have hmissing : ∀ secret, api.store.get c = .error (.notFound secret) ↔
      secret = c ∧ (api c).IsMissing := fun _ => ApiReply.resolve_eq_notFound_iff
  have hbroken : (∃ cause, api.store.get c = .error (.broken cause)) ↔ (api c).Unreportable :=
    ApiReply.exists_resolve_eq_broken_iff
  have hreads : (api.store.lookUp c).trace = [.lookedUp .cluster c] ∧
      (api.store.lookUp? c).trace = [.lookedUp .cluster c] := by
    rw [Store.lookUp_eq, Store.lookUp?_eq]
    exact ⟨rfl, rfl⟩
  refine ⟨?_, hserves, hmissing, hreads⟩
  -- to keep the contract is to break down in no answer
  rw [← hbroken]
  constructor
  · rintro hkeeps ⟨cause, hcause⟩
    exact LookupFault.exists_message?_iff.mp (hkeeps.reports _ hcause) cause rfl
  · intro hreported
    refine ⟨hserves, fun fault hfault => ?_, hmissing, hreads⟩
    refine LookupFault.exists_message?_iff.mpr ?_
    rintro cause rfl
    exact hreported ⟨cause, hfault⟩

end Api

end

namespace Api

open scoped BuiltIn

/-- A plain text with a lone surrogate breaks a lookup down, and so does a truth value in the place
of base64. -/
theorem not_keepsContract_surrogate :
    ¬KeepsContract (fun _ => .secret ⟨[], [("k", .ofAtom (.text [.surrogate 0]))]⟩) ⟨"ns", "s"⟩ ∧
    ¬KeepsContract (fun _ => .secret ⟨[("k", .ofAtom (.bool true))], []⟩) ⟨"ns", "s"⟩ := by
  constructor
  · intro h
    obtain ⟨words, hwords⟩ := h.reports (.broken .unencodableText) (by decide)
    cases hwords
  · intro h
    obtain ⟨words, hwords⟩ := h.reports (.broken .untypedData) (by decide)
    cases hwords

end Api

end JenkinsAdmission
