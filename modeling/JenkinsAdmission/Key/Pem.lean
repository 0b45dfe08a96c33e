import JenkinsAdmission.Base64

/-!
# PEM blocks

A **block** stands between `-----BEGIN label-----`, a line end, and `-----END label-----` with the
same label. The label is made of capital letters, digits and spaces, and the body is the shortest
that the end marker allows.

* `Pem.firstBlock?` is the block that begins leftmost. A BEGIN marker without its END is passed
  over.
* `Pem.payload` is the base64 text of a body: its lines without the blanks around them, less the
  empty ones and the headers, which are the lines with a colon.
* `Pem.decode?` decodes the payload of the first block. When that fails there is no second try
  with a later block.
-/

namespace JenkinsAdmission.Pem

/-- Line feed. -/
def lineFeed : UInt8 := 0x0A

/-- Carriage return. -/
def carriageReturn : UInt8 := 0x0D

/-- A labelled stretch of armour. -/
structure Block where
  /-- what the markers call the content -/
  label : Bytes
  /-- what stands between the markers' lines -/
  body : Bytes
  deriving DecidableEq

/-- What a BEGIN marker starts with. -/
def beginMark : Bytes := Bytes.ofString "-----BEGIN "

/-- What closes a marker. -/
def dashes : Bytes := Bytes.ofString "-----"

/-- The END marker of a label. -/
def endMark (label : Bytes) : Bytes :=
  Bytes.ofString "-----END " ++ label ++ dashes

/-- Capital letters, digits and the space. -/
def isLabelByte (b : UInt8) : Bool :=
  (decide (0x41 ≤ b) && decide (b ≤ 0x5A)) || (decide (0x30 ≤ b) && decide (b ≤ 0x39)) || b == 0x20

/-- What follows a line end, which is a line feed with or without a carriage return before it. -/
def afterLineEnd? : Bytes → Option Bytes
  | a :: rest =>
    if a = lineFeed then some rest
    else if a = carriageReturn then
      match rest with
      | b :: rest => if b = lineFeed then some rest else none
      | [] => none
    else none
  | [] => none

/-- What stands before the first occurrence of a marker. -/
def before? (marker : Bytes) : Bytes → Option Bytes
  | [] => if marker.isEmpty then some [] else none
  | b :: rest =>
    if marker.isPrefixOf (b :: rest) then some [] else (before? marker rest).map (b :: ·)

/-- The block whose BEGIN marker starts the data. -/
def blockAt? (data : Bytes) : Option Block := do
  let rest ← beginMark.isPrefixOf? data
  let label := rest.takeWhile isLabelByte
  let rest ← dashes.isPrefixOf? (rest.dropWhile isLabelByte)
  let rest ← afterLineEnd? rest
  let body ← before? (endMark label) rest
  if label.isEmpty then none else some ⟨label, body⟩

/-- The block that begins leftmost. -/
def firstBlock? : Bytes → Option Block
  | [] => none
  | b :: rest =>
    match blockAt? (b :: rest) with
    | some block => some block
    | none => firstBlock? rest

/-! ## The payload -/

/-- The lines of a body. Either of the bytes of a line end ends a line, so the pair leaves an
empty line behind, which counts for nothing. -/
def lines : Bytes → List Bytes
  | [] => [[]]
  | b :: rest =>
    if b = lineFeed ∨ b = carriageReturn then [] :: lines rest
    else
      match lines rest with
      | [] => [[b]]
      | line :: others => (b :: line) :: others

/-- ASCII white space. -/
def isBlank (b : UInt8) : Bool :=
  b == 0x20 || (decide (0x09 ≤ b) && decide (b ≤ 0x0D))

/-- A line without the blanks at its ends. -/
def trim (line : Bytes) : Bytes :=
  ((line.dropWhile isBlank).reverse.dropWhile isBlank).reverse

/-- Whether a line holds payload: it is not empty and no header. -/
def isPayloadLine (line : Bytes) : Bool :=
  !line.isEmpty && !line.contains 0x3A

/-- The base64 text of a body. -/
def payload (body : Bytes) : Bytes :=
  (((lines body).map trim).filter isPayloadLine).flatten

/-- Content under its label. -/
structure Content where
  /-- what the markers call it -/
  label : Bytes
  /-- the decoded payload -/
  der : Bytes
  deriving DecidableEq

/-- The content of the first block. -/
def decode? (data : Bytes) : Option Content :=
  match firstBlock? data with
  | none => none
  | some block =>
    match Base64.decode (payload block.body) with
    | .ok (b :: der) => some ⟨block.label, b :: der⟩
    | .ok [] => none
    | .error _ => none

end JenkinsAdmission.Pem
