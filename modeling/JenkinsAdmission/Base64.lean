import JenkinsAdmission.Unicode.Utf8

/-!
# Base64

Base64 in the alphabet `A-Za-z0-9+/`, padded with `=`.

* `Base64.encode` writes the standard padded form.
* `Base64.decode` reads it strictly: a foreign character, padding in front, data after padding and
  a truncated group are **defects**.
* `Base64.decodeLoosely` skips foreign characters and stops at the first complete padding.

The reader counts the data characters of the current group and the padding since the last of
them. Padding is complete when it fills a group of which at least two characters are data. The
low bits that the last group does not use are ignored.
-/

namespace JenkinsAdmission.Base64

/-- The padding character `=`. -/
def pad : UInt8 := 0x3D

/-- The value of a data character. -/
def digit? (b : UInt8) : Option Nat :=
  if 0x41 ≤ b ∧ b ≤ 0x5A then some (b.toNat - 0x41)
  else if 0x61 ≤ b ∧ b ≤ 0x7A then some (b.toNat - 0x61 + 26)
  else if 0x30 ≤ b ∧ b ≤ 0x39 then some (b.toNat - 0x30 + 52)
  else if b = 0x2B then some 62
  else if b = 0x2F then some 63
  else none

/-- The data character of a value below 64. -/
def symbol (n : Nat) : UInt8 :=
  if n < 26 then UInt8.ofNat (n + 0x41)
  else if n < 52 then UInt8.ofNat (n - 26 + 0x61)
  else if n < 62 then UInt8.ofNat (n - 52 + 0x30)
  else if n = 62 then 0x2B
  else 0x2F

/-! ## Writing -/

/-- The standard padded form of a sequence of bytes. -/
def encode : Bytes → Bytes
  | a :: b :: c :: rest =>
    symbol (a.toNat / 4) :: symbol (a.toNat % 4 * 16 + b.toNat / 16)
      :: symbol (b.toNat % 16 * 4 + c.toNat / 64) :: symbol (c.toNat % 64) :: encode rest
  | [a, b] =>
    [symbol (a.toNat / 4), symbol (a.toNat % 4 * 16 + b.toNat / 16), symbol (b.toNat % 16 * 4), pad]
  | [a] => [symbol (a.toNat / 4), symbol (a.toNat % 4 * 16), pad, pad]
  | [] => []

/-! ## Reading -/

/-- What is wrong with a text that should be base64. -/
inductive Defect
  /-- a character outside ASCII -/
  | nonAscii
  /-- padding before any data -/
  | leadingPadding
  /-- characters after complete padding -/
  | excessData
  /-- an ASCII character that is neither data nor padding -/
  | foreignCharacter
  /-- data after incomplete padding -/
  | discontinuousPadding
  /-- a last group of one character, with the number of all data characters -/
  | danglingCharacter (count : Nat)
  /-- a last group of two or three characters without its padding -/
  | incorrectPadding
  deriving DecidableEq

/-- The wording of a defect. -/
def Defect.message : Defect → Text
  | nonAscii => "string argument should contain only ASCII characters"
  | leadingPadding => "Leading padding not allowed"
  | excessData => "Excess data after padding"
  | foreignCharacter => "Only base64 data is allowed"
  | discontinuousPadding => "Discontinuous padding not allowed"
  | danglingCharacter count =>
    "Invalid base64-encoded string: number of data characters (" ++ Text.ofNat count
      ++ ") cannot be 1 more than a multiple of 4"
  | incorrectPadding => "Incorrect padding"

/-- Where a reader stands. -/
structure Reader where
  /-- the number of data characters so far -/
  count : Nat
  /-- the bits that do not fill a byte yet -/
  held : Nat
  /-- the padding characters that count towards the current group -/
  pads : Nat
  /-- whether any padding was seen -/
  padded : Bool

namespace Reader

/-- Nothing read yet. -/
def start : Reader := ⟨0, 0, 0, false⟩

/-- The number of data characters of the current group. -/
def quad (r : Reader) : Nat := r.count % 4

/-- One more padding character completes the value. -/
def complete (r : Reader) : Bool :=
  decide (2 ≤ r.quad) && decide (4 ≤ r.quad + (r.pads + 1))

/-- The reader after a padding character that does not complete the value. Padding that follows
fewer than two data characters of a group does not count. -/
def skipPad (r : Reader) : Reader :=
  { r with padded := true, pads := if 2 ≤ r.quad then r.pads + 1 else r.pads }

/-- The byte, if one is full, that the data character of value `v` completes. -/
def byte? (r : Reader) (v : Nat) : List UInt8 :=
  match r.quad with
  | 0 => []
  | 1 => [UInt8.ofNat (r.held * 4 + v / 16)]
  | 2 => [UInt8.ofNat (r.held * 16 + v / 4)]
  | _ => [UInt8.ofNat (r.held * 64 + v)]

/-- The reader after a data character of value `v`. -/
def push (r : Reader) (v : Nat) : Reader :=
  { r with
    count := r.count + 1
    pads := 0
    held :=
      match r.quad with
      | 0 => v
      | 1 => v % 16
      | 2 => v % 4
      | _ => 0 }

/-- The verdict on a value that ends without complete padding. -/
def finish (r : Reader) : Except Defect Bytes :=
  match r.quad with
  | 0 => .ok []
  | 1 => .error (.danglingCharacter r.count)
  | _ => .error .incorrectPadding

/-- The bytes that the remaining characters add. -/
def read (strict : Bool) (r : Reader) : Bytes → Except Defect Bytes
  | [] => r.finish
  | b :: rest =>
    if b = pad then
      if r.complete then
        if strict && !rest.isEmpty then .error .excessData else .ok []
      else read strict r.skipPad rest
    else
      match digit? b with
      | none => if strict then .error .foreignCharacter else read strict r rest
      | some v =>
        if strict && r.padded then .error .discontinuousPadding
        else (read strict (r.push v) rest).map (r.byte? v ++ ·)

end Reader

/-- The bytes of a value in strict base64. -/
def decode (b : Bytes) : Except Defect Bytes :=
  if b.head? = some pad then .error .leadingPadding else Reader.start.read true b

/-- The bytes of a value with foreign characters skipped. -/
def decodeLoosely (b : Bytes) : Except Defect Bytes :=
  Reader.start.read false b

/-- The bytes of a text in strict base64. -/
def decodeText (t : Text) : Except Defect Bytes :=
  match t.ascii? with
  | some b => decode b
  | none => .error .nonAscii

end JenkinsAdmission.Base64
