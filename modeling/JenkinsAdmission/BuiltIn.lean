import JenkinsAdmission.Key.PrivateKey
import JenkinsAdmission.Platform
import JenkinsAdmission.Yaml.Document

/-!
# A platform of our own

Readers for YAML and for private keys, a console and a format for notes, such that the command can
be run. What these accept is what the formats say. Their words are our own: they name the rule that
is broken and leave out where, and no theorem depends on them.

The platform is an instance only where `BuiltIn` is opened.
-/

namespace JenkinsAdmission.BuiltIn

/-- A fault of our reader of YAML as one of a platform. -/
def streamFault : Yaml.Fault → StreamFault
  | .malformed rule => .malformed rule.message
  | .broken cause => .broken cause

/-- What is said about content that is no private key. -/
def noKey : Remark where
  text := "found no private key"
  untagged := by decide +kernel

/-- A private key as our reader finds it. An impossible one makes that reader fail. -/
def keyReading? : Option PrivateKey → Option KeyReading
  | none => some (.unreadable noKey)
  | some (.rsa numbers) => some (.rsa numbers)
  | some .other => some .other
  | some .impossible => none

/-- Words between spaces on a line of their own. -/
def noteLine (words : List Text) : Text :=
  Text.join " " words ++ "\n"

/-- A note as a line. -/
def printed : Note → Text
  | .resource j => noteLine ["resource", j.coordinate.path]
  | .seedJob job => noteLine ["seed job", job.id]
  | .request c => noteLine ["request", c.path]
  | .label label => noteLine ["label", Text.ofAscii label]
  | .credentials name keys => noteLine ("credentials" :: name :: keys)
  | .seedJobsSound sound => noteLine ["seed jobs", if sound then "sound" else "not sound"]
  | .backupSound sound => noteLine ["backup", if sound then "sound" else "not sound"]

/-- A markup without tags but our own closes nothing that it has not opened. -/
theorem isBalanced_of_isOwn {t : Text} (h : Markup.IsOwn t) : Markup.isBalanced t = true := by
  obtain ⟨more, hmore⟩ := h.settles []
  simp [Markup.isBalanced, hmore]

/-- Our own platform. -/
scoped instance platform : Platform where
  readStream _ bytes := (Yaml.read bytes).mapError streamFault
  readKey? der := keyReading? (PrivateKey.ofDer? der)
  depth := 970
  draws := Markup.isBalanced
  draws_own _ := isBalanced_of_isOwn
  printed := printed

end JenkinsAdmission.BuiltIn
