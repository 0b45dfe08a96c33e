import JenkinsAdmission.Key.Pem
import JenkinsAdmission.Platform

/-!
# The verdict on key material

A deploy key is accepted when the first PEM block of the material carries the label of a private
key, its content is an RSA key, and the numbers of the key are consistent. Otherwise the first
reason in that order is reported. A **structural** defect is one of the wrapping, a **math** defect
one of the numbers. What the content is, the reader of the platform says. Only content at which that
reader fails gets no verdict: looking at it breaks down.
-/

namespace JenkinsAdmission

/-- Why key material is refused. -/
inductive KeyDefect
  /-- no PEM block, or one whose payload cannot be decoded -/
  | undecodable
  /-- a block whose label is not that of a private key -/
  | unsupported (label : Bytes)
  /-- content that is no private key, in the words of the reader -/
  | unparsable (words : Remark)
  /-- a private key of another algorithm -/
  | notRsa
  /-- an RSA key with a broken relation -/
  | inconsistent (defect : RsaDefect)
  deriving DecidableEq

/-- The two kinds of defect. -/
inductive KeyFailure
  /-- the wrapping is at fault -/
  | structural
  /-- the numbers are at fault -/
  | math
  deriving DecidableEq

/-- The name of a kind of defect. -/
def KeyFailure.name : KeyFailure → Text
  | structural => "structural"
  | math => "math"

namespace KeyDefect

/-- The kind of a defect. -/
def failure : KeyDefect → KeyFailure
  | inconsistent _ => .math
  | _ => .structural

/-- The wording of a defect. -/
def reason : KeyDefect → Text
  | undecodable => "undecodable PEM"
  | unsupported label => "unsupported PEM block type '" ++ Text.ofAscii label ++ "'"
  | unparsable words => "failed to parse private key: " ++ words.text
  | notRsa => "private key is not an RSA key"
  | inconsistent defect => defect.message

end KeyDefect

/-- The labels of a private key: bare RSA, and any algorithm in an envelope. -/
def privateKeyLabels : List Bytes :=
  [Bytes.ofString "RSA PRIVATE KEY", Bytes.ofString "PRIVATE KEY"]

/-- What is wrong with a private key as it was read, or nothing. -/
def KeyReading.defect? : KeyReading → Option KeyDefect
  | unreadable words => some (.unparsable words)
  | other => some .notRsa
  | rsa numbers => numbers.defect?.map .inconsistent

section

variable [Platform]

/-- What is wrong with the content of a block that carries the label of a private key, or
nothing. -/
def contentDefect? (der : Bytes) : Except Breakdown (Option KeyDefect) :=
  match Platform.readKey? der with
  | none => .error .impossibleKey
  | some reading => .ok reading.defect?

/-- What is wrong with key material, or nothing. -/
def keyDefect? (material : Bytes) : Except Breakdown (Option KeyDefect) :=
  match Pem.decode? material with
  | none => .ok (some .undecodable)
  | some content =>
    if privateKeyLabels.contains content.label then contentDefect? content.der
    else .ok (some (.unsupported content.label))

variable {material : Bytes} {content : Pem.Content}

theorem keyDefect?_of_supported (h : Pem.decode? material = some content)
    (hlabel : content.label ∈ privateKeyLabels) :
    keyDefect? material = contentDefect? content.der := by
  simp only [keyDefect?, h, List.contains_iff_mem.mpr hlabel, if_true]

theorem keyDefect?_of_unsupported (h : Pem.decode? material = some content)
    (hlabel : content.label ∉ privateKeyLabels) :
    keyDefect? material = .ok (some (.unsupported content.label)) := by
  have hcontains : privateKeyLabels.contains content.label = false := by
    simpa using hlabel
  simp only [keyDefect?, h, hcontains, Bool.false_eq_true, if_false]

end

end JenkinsAdmission
