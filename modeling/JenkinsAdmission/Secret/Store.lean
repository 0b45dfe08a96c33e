import JenkinsAdmission.Base64
import JenkinsAdmission.Run
import JenkinsAdmission.Table
import JenkinsAdmission.Value.Quoted

/-!
# Secret stores

A **store** answers the question for the data of a secret, with data or with a fault. Validation
works against any store.

* `Secrets.store` serves the secrets of a table.
* `Store.withFaults` puts recorded faults in front of a store.
* `Store.lookUp` and `Store.lookUp?` are the two ways to ask: the second takes it as an answer that
  a secret does not exist.
-/

namespace JenkinsAdmission

/-- The data of a secret: bytes under keys. -/
abbrev SecretData := Table Text Bytes

/-- The value under a key, which is empty if the key is missing. -/
def SecretData.value (d : SecretData) (key : Text) : Bytes :=
  (d.get? key).getD []

/-- Why a lookup has no answer. -/
inductive LookupFault
  /-- there is no such secret -/
  | notFound (secret : Coordinate)
  /-- the store failed, in its own words -/
  | reported (words : Text)
  /-- the API answered with a status other than "not found" -/
  | refused (secret : Coordinate) (status reason : Text)
  /-- the API could not be reached -/
  | unreachable (detail : Text)
  /-- the data of the secret is not base64 -/
  | malformed (secret : Coordinate) (defect : Base64.Defect)
  /-- the run broke down -/
  | broken (cause : Breakdown)
  deriving DecidableEq

instance : BreaksDown LookupFault := ⟨.broken⟩

namespace LookupFault

/-- The wording of a fault. A breakdown has none. -/
def message? : LookupFault → Option Text
  | notFound c => some ("Secret '" ++ c.path ++ "' not found")
  | reported words => some words
  | refused c status reason =>
    some ("Failed to read secret '" ++ c.path ++ "': " ++ status ++ " " ++ reason)
  | unreachable detail => some ("Failed to connect to the Kubernetes cluster: " ++ detail)
  | malformed c defect =>
    some ("Secret '" ++ c.path ++ "' contains malformed data: " ++ defect.message)
  | broken _ => none

end LookupFault

/-- Where secrets are looked up. -/
structure Store where
  /-- where the secrets come from -/
  source : Source
  /-- the answer for a coordinate -/
  get : Coordinate → Except LookupFault SecretData

namespace Store

/-- Ask for a secret. -/
def lookUp (s : Store) (c : Coordinate) : Run LookupFault SecretData := do
  Run.log (.lookedUp s.source c)
  Run.ofExcept (s.get c)

/-- Ask for a secret that may be missing. -/
def lookUp? (s : Store) (c : Coordinate) : Run LookupFault (Option SecretData) := do
  Run.log (.lookedUp s.source c)
  match s.get c with
  | .ok data => pure (some data)
  | .error (.notFound _) => pure none
  | .error fault => Run.fail fault

/-- A store that reports the faults recorded for some coordinates before it looks. -/
def withFaults (s : Store) (faults : Table Coordinate Text) : Store where
  source := s.source
  get c :=
    match faults.get? c with
    | some words => .error (.reported words)
    | none => s.get c

end Store

/-- Secrets by coordinate. -/
abbrev Secrets := Table Coordinate SecretData

namespace Secrets

/-- The store that serves the secrets of a table. -/
def store (secrets : Secrets) : Store where
  source := .manifests
  get c :=
    match secrets.get? c with
    | some data => .ok data
    | none => .error (.notFound c)

/-- The secrets in the order of their coordinates. -/
def sorted (secrets : Secrets) : Secrets :=
  secrets.mergeSort fun a b => a.1.le b.1

/-- A coordinate as a pair of quoted texts. -/
def coordinateText (c : Coordinate) : Text :=
  "(" ++ c.ns.quoted ++ ", " ++ c.name.quoted ++ ")"

/-- What a store is called in a listing: the coordinates of its secrets, and none of their data. -/
def description (secrets : Secrets) : Text :=
  "InMemorySecretStore(secrets=["
    ++ Text.join ", " (secrets.sorted.map fun e => coordinateText e.1) ++ "])"

end Secrets

/-! ## The data of one secret -/

/-- The entries of a secret, decoded one after the other and written into a table. -/
def SecretData.collect {ε α β : Type} (key : α → Except ε Text) (decode : β → Except ε Bytes)
    (entries : List (α × β)) (data : SecretData) : Except ε SecretData :=
  entries.foldlM (fun data entry => do
    let bytes ← decode entry.2
    let key ← key entry.1
    pure (data.insert key bytes)) data

end JenkinsAdmission
