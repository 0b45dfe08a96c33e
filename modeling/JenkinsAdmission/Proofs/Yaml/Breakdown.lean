import JenkinsAdmission.Proofs.Yaml.Building
import JenkinsAdmission.Proofs.Yaml.Lexing
import JenkinsAdmission.Proofs.Yaml.Source

/-!
# What breaks the reader of streams down

A file is decoded, taken apart into tokens, read as nodes and built as values. Most of what can be
wrong with it breaks a rule, and is reported. What is left is a short list (`Yaml.Culprit`): bytes
that are not UTF-8, an escape or a version whose number stands for nothing, more collections than
may be open, and a scalar from which its tag can make no value. The last one takes no tag that is
written by hand: the form of a text may promise a number or a time that the text does not keep.

`Yaml.culprit_of_read` goes through the stages: each stops only at what it meets itself or what the
stage before it left over.
-/

namespace JenkinsAdmission.Yaml

/-- Something in a file that can break the reader of streams down. -/
inductive Culprit (file : Bytes) : Breakdown → Prop
  /-- bytes that are not UTF-8 -/
  | undecodable (h : Utf8.decode file = none) : Culprit file .undecodableBytes
  /-- an escape by a number, without a code point of this number -/
  | escape {letter : Char} {digits : List Char} {values : List Nat} {cause : Breakdown}
    (hescape : '\\' :: letter :: digits <:+: (Source.ofBytes file).chars)
    (hletter : escapeWidth? letter = some digits.length)
    (hdigits : digits.mapM Cursor.hexValue? = some values)
    (hnumber : Cursor.codePoint (Cursor.hexadecimal values) = .error (.broken cause)) :
    Culprit file cause
  /-- a version with too many digits -/
  | version {digits : List Char} (hdigits : digits <:+: (Source.ofBytes file).chars)
    (hdigit : digits.all Char.isDigit = true) (hlong : Numeral.maxDigits < digits.length) :
    Culprit file .badNumeral
  /-- more openings than collections may be open -/
  | openings (h : Compose.maxDepth < Token.openings (tokenize (.ofBytes file)).tokens) :
    Culprit file .tooDeep
  /-- a scalar whose tag makes nothing of its text -/
  | scalar {tag : String} {build : Place → Text → Except Fault Atom} {place : Place} {text : Text}
    {cause : Breakdown} (htag : Repertoire.ofTag? tag = some (.atom build))
    (htext : (tokenize (.ofBytes file)).Holds text)
    (hresolve : tag = Tag.resolve text ∨ (tokenize (.ofBytes file)).Overrides)
    (hbuild : build place text = .error (.broken cause)) : Culprit file cause
  /-- a scalar that is tagged as a time and stands for none -/
  | time {text : Text} {cause : Breakdown} (htext : (tokenize (.ofBytes file)).Holds text)
    (hresolve : Tag.timestamp = Tag.resolve text ∨ (tokenize (.ofBytes file)).Overrides)
    (htime : timestampAtom text = .error (.broken cause)) : Culprit file cause
  /-- a mapping that is tagged as a time -/
  | timestampMapping (h : (tokenize (.ofBytes file)).Overrides) : Culprit file .timestampMapping
  /-- default values that refer to one another for too long -/
  | defaults (h : (tokenize (.ofBytes file)).Overrides) : Culprit file .tooDeep

variable {file : Bytes} {cause : Breakdown}

/-- The lexer breaks down where the bytes do, or at a number that stands for nothing. -/
theorem culprit_of_stops (h : (Source.ofBytes file).Stops (.broken cause)) :
    Culprit file cause := by
  cases h with
  | cut hcut =>
    rcases Source.fault_ofBytes hcut with ⟨hcause, hbytes⟩ | ⟨hcause, -⟩
    · cases hcause
      exact .undecodable hbytes
    · cases hcause
  | escape hescape hletter hdigits hnumber => exact .escape hescape hletter hdigits hnumber
  | version hdigits hdigit hlong => exact .version hdigits hdigit hlong

/-- **Reading a file breaks down** only at something in it that can break the reader down. -/
theorem culprit_of_read (h : read file = .error (.broken cause)) : Culprit file cause := by
  rcases Tokens.stops_or_spoils h with hstops | hspoils
  · cases hstops with
    | cut hcut => exact culprit_of_stops (stops_of_tokenize hcut)
    | tooDeep hdeep => exact .openings hdeep
  · cases hspoils with
    | atom htag htext hresolve hbuild => exact .scalar htag htext hresolve hbuild
    | timestamp htext hresolve htime => exact .time htext hresolve htime
    | timestampMapping hoverrides => exact .timestampMapping hoverrides
    | defaults hoverrides => exact .defaults hoverrides

end JenkinsAdmission.Yaml
