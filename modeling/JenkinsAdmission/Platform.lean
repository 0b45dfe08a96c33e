import JenkinsAdmission.Breakdown
import JenkinsAdmission.Console
import JenkinsAdmission.Key.Rsa
import JenkinsAdmission.Resource.Basic
import JenkinsAdmission.Value.Basic

/-!
# The platform

The rest of the library stands on code of others: one library reads YAML, another one private keys,
a third one draws the console, a fourth one prints notes for whoever debugs, and a language runs it
all. `Platform` is what these decide. Nothing else is assumed about them than what stands in that
class, so a theorem that takes a platform holds on all of them.

What the libraries say about an input at fault is part of their answers, since it is shown.
`BuiltIn` has a platform of our own.
-/

namespace JenkinsAdmission

/-! ## Answers -/

/-- Why a stream of YAML is not read. -/
inductive StreamFault
  /-- it is malformed, in the words of the reader -/
  | malformed (words : Text)
  /-- reading it broke down -/
  | broken (cause : Breakdown)
  deriving DecidableEq

/-- Words without live tags, such as a library has for what it cannot read. -/
structure Remark where
  /-- the words -/
  text : Text
  /-- none of them is a live tag -/
  untagged : Markup.liveTags text = []
  deriving DecidableEq

/-- What a reader of private keys answers. -/
inductive KeyReading
  /-- the content is no private key, in the words of the reader -/
  | unreadable (words : Remark)
  /-- it is a private key of another algorithm -/
  | other
  /-- it is an RSA key -/
  | rsa (numbers : RsaNumbers)

/-- Something that is noted for whoever debugs. -/
inductive Note
  /-- the resource that was loaded -/
  | resource (j : Jenkins)
  /-- a seed job that is about to be checked -/
  | seedJob (job : SeedJob)
  /-- a secret that a cluster is about to be asked for -/
  | request (secret : Coordinate)
  /-- the label of a block of key material -/
  | label (label : Bytes)
  /-- the secret of credentials with its keys -/
  | credentials (secretName : Text) (keys : List Text)
  /-- whether the seed jobs are sound -/
  | seedJobsSound (sound : Bool)
  /-- whether the backup is sound -/
  | backupSound (sound : Bool)
  deriving DecidableEq

/-! ## Platforms -/

/-- What the library stands on. -/
class Platform where
  /-- the documents in the bytes of the file at a path -/
  readStream : Text → Bytes → Except StreamFault (List Value)
  /-- what bytes are as a private key, unless the reader fails at them -/
  readKey? : Bytes → Option KeyReading
  /-- how many values may stand inside one another where a value is written -/
  depth : Nat
  /-- whether the console can draw a markup -/
  draws : Text → Bool
  /-- it can draw what has our own tags only -/
  draws_own : ∀ t, Markup.IsOwn t → draws t = true
  /-- a note as it is printed -/
  printed : Note → Text

/-- Whether the console can draw all of what is shown. -/
def Display.isDrawn [Platform] (d : Display) : Bool :=
  d.markups.all Platform.draws

end JenkinsAdmission
