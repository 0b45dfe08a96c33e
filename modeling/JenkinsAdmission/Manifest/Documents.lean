import JenkinsAdmission.Manifest.Defect

/-!
# The documents of a manifest file

A file holds a stream of YAML documents, of which those that are null do not count. Some files are
read as a whole stream, others have to hold at most one document, and that a mapping.
-/

namespace JenkinsAdmission.Manifest

/-- A fault of the file at a path. -/
def fileFault (path : Text) (defect : FileDefect) : ManifestFault :=
  .rejected (.file path defect)

/-- A fault of a stream as a fault of the file at a path. -/
def streamFault (path : Text) : StreamFault → ManifestFault
  | .malformed words => fileFault path (.malformed words)
  | .broken cause => .broken cause

variable [Platform]

/-- The documents of a file that are not null. -/
def documents (path : Text) : FileState → Except ManifestFault (List Value)
  | .missing => .error (fileFault path .missing)
  | .unreadable why => .error (fileFault path (.unreadable why))
  | .bytes b =>
    match Platform.readStream path b with
    | .ok values => .ok (values.filter fun v => !v.isNull)
    | .error fault => .error (streamFault path fault)

/-- The mapping that a file holds, and nothing for a file without documents. -/
def mapping? (path : Text) (file : FileState) : Except ManifestFault (Option Value) := do
  match ← documents path file with
  | [] => pure none
  | [document] =>
    if document.isMapping then pure (some document) else throw (fileFault path .notMapping)
  | _ => throw (fileFault path .severalDocuments)

end JenkinsAdmission.Manifest
