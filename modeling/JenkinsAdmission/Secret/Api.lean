import JenkinsAdmission.Secret.Store
import JenkinsAdmission.Value.Written

/-!
# Secrets from the API of a cluster

The API answers a read with a secret, a status, or not at all. A secret has **data**, base64 under
keys, as text or as bytes, and **string data**, plain text that takes precedence. Values that count
as absent are empty. A status equal to 404 says that there is no such secret.
-/

namespace JenkinsAdmission

/-- A secret as the API serves it. -/
structure ApiSecret where
  /-- base64 -/
  data : List (Text × Value)
  /-- plain texts -/
  stringData : List (Text × Value)

/-- The answer of the API. -/
inductive ApiReply
  /-- a secret -/
  | secret (s : ApiSecret)
  /-- a failure with its status and reason -/
  | failure (status reason : Value)
  /-- no connection -/
  | unreachable (detail : Text)

/-- The API as its answers. -/
abbrev Api := Coordinate → ApiReply

namespace ApiSecret

/-- The bytes of a value of the data. -/
def decodeValue (c : Coordinate) (v : Value) : Except LookupFault Bytes :=
  if v.isFalsy then .ok []
  else
    match v.atom? with
    | some (.text t) => (Base64.decodeText t).mapError (.malformed c)
    | some (.bytes b) => (Base64.decode b).mapError (.malformed c)
    | _ => .error (.broken .untypedData)

/-- The bytes of a value of the string data. -/
def encodeValue (v : Value) : Except LookupFault Bytes :=
  if v.isFalsy then .ok []
  else
    match v.text? with
    | none => .error (.broken .untypedText)
    | some t =>
      match t.utf8? with
      | some bytes => .ok bytes
      | none => .error (.broken .unencodableText)

/-- The data of a secret. -/
def decode (c : Coordinate) (s : ApiSecret) : Except LookupFault SecretData := do
  let data ← SecretData.collect .ok (decodeValue c) s.data []
  SecretData.collect .ok encodeValue s.stringData data

end ApiSecret

/-- Whether a status is 404 as a number. -/
def Value.isNotFoundStatus (v : Value) : Bool :=
  match v.atom? with
  | some a => a.integer? == some 404
  | none => false

/-- The data or the fault that an answer amounts to. -/
def ApiReply.resolve [Platform] (c : Coordinate) : ApiReply → Except LookupFault SecretData
  | .secret s => s.decode c
  | .failure status reason =>
    if status.isNotFoundStatus then .error (.notFound c)
    else
      match status.written, reason.written with
      | .ok status, .ok reason => .error (.refused c status reason)
      | .error cause, _ => .error (.broken cause)
      | .ok _, .error cause => .error (.broken cause)
  | .unreachable detail => .error (.unreachable detail)

/-- The store that reads every secret anew from the API. -/
def Api.store [Platform] (api : Api) : Store where
  source := .cluster
  get c := (api c).resolve c

end JenkinsAdmission
