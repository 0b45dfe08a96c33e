import JenkinsAdmission.Unicode.Alphanumeric
import JenkinsAdmission.Unicode.LowerCase

/-!
# Repository addresses

Which addresses are reached over SSH: those that start, whatever the case, with one of three
schemes, and those of the form `user@host:path`. User and host are made of word characters, dots
and hyphens, and the path does not start with two slashes.
-/

namespace JenkinsAdmission

/-- The schemes of SSH addresses. -/
def sshSchemes : List Text := ["ssh://", "git+ssh://", "ssh+git://"]

/-- What user and host names are made of. -/
def isNameCodePoint (c : CodePoint) : Bool :=
  c.isWord || c == .scalar '.' || c == .scalar '-'

/-- What follows a name and a separator at the start of a text. -/
def afterName? (separator : CodePoint) (t : Text) : Option Text :=
  match t.span isNameCodePoint with
  | ([], _) => none
  | (_ :: _, c :: rest) => if c = separator then some rest else none
  | (_ :: _, []) => none

/-- Whether a text has the form `user@host:path`. -/
def isScpLike (t : Text) : Bool :=
  match (afterName? (.scalar '@') t).bind (afterName? (.scalar ':')) with
  | some path => !(Text.ofString "//").isPrefixOf path
  | none => false

/-- Whether an address is reached over SSH. -/
def isSshUrl (url : Text) : Bool :=
  sshSchemes.any (fun scheme => scheme.isPrefixOf url.lower) || isScpLike url

end JenkinsAdmission
