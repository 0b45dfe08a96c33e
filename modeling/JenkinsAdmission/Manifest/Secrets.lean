import JenkinsAdmission.Manifest.Jenkins
import JenkinsAdmission.Secret.Store

/-!
# The secrets of a manifest

A stream of documents is read for the secrets in it. Documents of another kind are passed over. Of
several secrets with the same coordinate the last one counts, as a whole.

The values under `data` are base64 texts and those under `stringData` plain ones, which take
precedence. Keys and values are taken by their text, whatever they are, and a value that counts as
absent is the empty text.
-/

namespace JenkinsAdmission.Manifest

/-- Whether a document declares a secret. -/
def isSecret (document : Value) : Bool :=
  (document.get? "kind").any fun kind => kind.text? == some ("Secret" : Text)

/-- The entries of a field that has to be a mapping. -/
def secretEntries (document : Value) (field : SecretField) :
    Except SecretDefect (List (Atom × Value)) :=
  match document.given? field.key with
  | none => .ok []
  | some v =>
    match v.entries? with
    | some entries => .ok entries
    | none => .error (.illFormed field)

/-- Why a base64 text of a secret is not decoded. -/
inductive DataFault
  /-- it is at fault -/
  | rejected (defect : DataDefect)
  /-- the run broke down -/
  | broken (cause : Breakdown)
  deriving DecidableEq

/-- A text that is decoded. An integer that is too long to be written is a defect of the data, and
every other breakdown is a breakdown. -/
def dataText : Except Breakdown Text → Except DataFault Text
  | .ok t => .ok t
  | .error .numeralTooLong => .error (.rejected .numeralTooLong)
  | .error cause => .error (.broken cause)

/-- The text of a key of base64 texts. -/
def dataKey (k : Atom) : Except DataFault Text :=
  dataText k.written

/-- The text of a key of plain texts. -/
def stringKey (k : Atom) : Except ManifestFault Text :=
  k.written.mapError .broken

section

variable [Platform]

/-- The text of a value of a secret. -/
def secretText (v : Value) : Except Breakdown Text :=
  if v.isFalsy then .ok [] else v.written

/-- The bytes of a base64 text. -/
def dataBytes (v : Value) : Except DataFault Bytes := do
  let t ← dataText (secretText v)
  (Base64.decodeText t).mapError fun defect => .rejected (.encoding defect)

/-- The bytes of a plain text. -/
def stringBytes (v : Value) : Except ManifestFault Bytes := do
  let t ← (secretText v).mapError .broken
  match t.utf8? with
  | some bytes => .ok bytes
  | none => .error (.broken .unencodableText)

end

/-- A fault of a secret in the file at a path. -/
def secretFault (path : Text) (defect : SecretDefect) : ManifestFault :=
  .rejected (.secret path defect)

/-- A fault of the base64 texts of a secret in the file at a path. -/
def dataFault (path : Text) : DataFault → ManifestFault
  | .rejected defect => secretFault path (.malformedData defect)
  | .broken cause => .broken cause

/-- The metadata of a secret and the name in them. -/
def secretMetadata (document : Value) : Except SecretDefect (Value × Value) :=
  match document.given? SecretField.metadata.key with
  | none => .error .unnamed
  | some metadata =>
    if metadata.isMapping then
      match metadata.given? "name" with
      | none => .error .unnamed
      | some name => .ok (metadata, name)
    else .error (.illFormed .metadata)

variable [Platform]

/-- The data of the secret that a document declares. -/
def secretData (path : Text) (document : Value) : Except ManifestFault SecretData := do
  let encoded ← (secretEntries document .data).mapError (secretFault path)
  let data ← (SecretData.collect dataKey dataBytes encoded []).mapError (dataFault path)
  let plain ← (secretEntries document .stringData).mapError (secretFault path)
  SecretData.collect stringKey stringBytes plain data

/-- The secret that a document declares, with its coordinate. -/
def secret (path defaultNamespace : Text) (document : Value) :
    Except ManifestFault (Coordinate × SecretData) := do
  let (metadata, name) ← (secretMetadata document).mapError (secretFault path)
  let data ← secretData path document
  let ns ← namespaceOr defaultNamespace metadata
  let name ← name.textOrBreak
  pure (⟨ns, name⟩, data)

/-- Secrets with those of a document added. -/
def addDocument (path defaultNamespace : Text) (secrets : Secrets) (document : Value) :
    Except ManifestFault Secrets :=
  if isSecret document then do
    let (c, data) ← secret path defaultNamespace document
    pure (secrets.insert c data)
  else pure secrets

/-- The secrets of a list of documents. -/
def secretsOf (path defaultNamespace : Text) (documents : List Value) :
    Except ManifestFault Secrets :=
  documents.foldlM (addDocument path defaultNamespace) []

/-- The secrets in a file. -/
def loadSecrets (defaultNamespace path : Text) (file : FileState) :
    Except ManifestFault Secrets := do
  secretsOf path defaultNamespace (← documents path file)

end JenkinsAdmission.Manifest
