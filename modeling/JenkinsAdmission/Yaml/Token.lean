import JenkinsAdmission.Yaml.Fault

/-!
# Tokens

The words of a YAML stream. Indentation has become tokens too: a block collection is enclosed in a
start and an end token just as a flow collection is in its brackets.
-/

namespace JenkinsAdmission.Yaml

/-- An instruction in front of a document. -/
inductive Directive
  /-- the version of the format -/
  | version (major minor : Nat)
  /-- a handle for tags that start alike -/
  | handle (name start : String)
  /-- one without meaning here -/
  | reserved
  deriving DecidableEq

/-- A tag as written. -/
structure TagName where
  /-- the handle, unless the tag is written in full -/
  handle : Option String
  /-- what follows the handle -/
  suffix : String
  deriving DecidableEq

/-- A word of a stream. -/
inductive Token
  /-- the end of the stream -/
  | streamEnd
  /-- an instruction -/
  | directive (d : Directive)
  /-- the start marker of a document -/
  | documentStart
  /-- the end marker of a document -/
  | documentEnd
  /-- the start of an indented sequence -/
  | blockSequenceStart
  /-- the start of an indented mapping -/
  | blockMappingStart
  /-- the end of an indented collection -/
  | blockEnd
  /-- an opening square bracket -/
  | flowSequenceStart
  /-- a closing square bracket -/
  | flowSequenceEnd
  /-- an opening brace -/
  | flowMappingStart
  /-- a closing brace -/
  | flowMappingEnd
  /-- a comma -/
  | flowEntry
  /-- the dash of an entry -/
  | blockEntry
  /-- a key follows -/
  | key
  /-- a value follows -/
  | value
  /-- a reference to an anchor -/
  | alias (name : String)
  /-- a name for the node that follows -/
  | anchor (name : String)
  /-- a tag for the node that follows -/
  | tag (name : TagName)
  /-- a scalar, plain or not -/
  | scalar (text : Text) (plain : Bool)
  deriving DecidableEq

/-- The tokens of a stream, and the fault that cuts them off, if any. A fault counts only once all
the tokens before it have been used. -/
structure Tokens where
  /-- the tokens -/
  tokens : List Token
  /-- what stands in the way of the next token -/
  fault : Option Fault := none

end JenkinsAdmission.Yaml
