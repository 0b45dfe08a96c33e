import JenkinsAdmission.Breakdown
import JenkinsAdmission.Unicode.CodePoint

/-!
# Faults of a YAML stream

A stream is **malformed** when it breaks a rule of the format. It may also be well formed and yet
hold a scalar that no value can be built from, and then reading it breaks down.
-/

namespace JenkinsAdmission.Yaml

/-- The rule that a malformed stream breaks. -/
inductive Malformation
  /-- a control character, or another one that no stream may hold -/
  | unprintable
  /-- a line that has to be a key, without its colon -/
  | missingColon
  /-- an indicator in a place where it cannot stand -/
  | misplacedIndicator
  /-- a character that starts no token -/
  | strayCharacter
  /-- a directive that is not well formed, given twice, or of another version -/
  | badDirective
  /-- a tag that is not well formed or has an unknown handle -/
  | badTag
  /-- an anchor that is not well formed, given twice, or unknown -/
  | badAnchor
  /-- a block scalar with an ill-formed header -/
  | badBlockScalar
  /-- a quoted scalar that is not closed, or with an unknown escape -/
  | badQuotedScalar
  /-- a token that does not continue the structure -/
  | unexpectedToken
  /-- a node of the wrong kind for its tag, or with an unknown tag -/
  | badNode
  /-- a mapping with a key that has parts -/
  | badKey
  /-- a merge of something that is no mapping -/
  | badMerge
  /-- binary data that is not base64 -/
  | badBinary
  deriving DecidableEq

/-- The wording of a broken rule. -/
def Malformation.message : Malformation → Text
  | unprintable => "special characters are not allowed"
  | missingColon => "could not find expected ':'"
  | misplacedIndicator => "an indicator is not allowed here"
  | strayCharacter => "found a character that cannot start any token"
  | badDirective => "found an ill-formed directive"
  | badTag => "found an ill-formed or undefined tag"
  | badAnchor => "found an ill-formed, duplicate or undefined anchor"
  | badBlockScalar => "found an ill-formed block scalar"
  | badQuotedScalar => "found an ill-formed quoted scalar"
  | unexpectedToken => "found an unexpected token"
  | badNode => "could not determine a value for the node"
  | badKey => "found a key that has parts"
  | badMerge => "expected a mapping or list of mappings for merging"
  | badBinary => "failed to decode base64 data"

/-- Why a stream cannot be read. -/
inductive Fault
  /-- it breaks a rule of the format -/
  | malformed (rule : Malformation)
  /-- a value cannot be built -/
  | broken (cause : Breakdown)
  deriving DecidableEq

end JenkinsAdmission.Yaml
