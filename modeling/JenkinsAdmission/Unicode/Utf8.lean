import JenkinsAdmission.Unicode.CodePoint

/-!
# Bytes and UTF-8

A file is a list of bytes, and so is the value of a secret.

* `Utf8.decode` reads bytes as characters. It is strict: an overlong form, a surrogate, a number
  above the last code point and a truncated sequence are all refused.
* `Utf8.decodeComplete` reads the beginning of a sequence that goes on, up to a character that is
  not complete.
* `Utf8.decodeLossy` puts a replacement character for what is refused: one for every longest
  beginning of a sequence that is not finished, and one for every byte that begins none.
* `Text.utf8?` writes a text as bytes. Only a lone surrogate has no bytes.
-/

namespace JenkinsAdmission

/-- A sequence of bytes. -/
abbrev Bytes := List UInt8

/-- The bytes of a string. -/
def Bytes.ofString (s : String) : Bytes :=
  s.toList.flatMap String.utf8EncodeChar

namespace Utf8

/-- The bytes `10xxxxxx` that continue a sequence. -/
def isTail (b : UInt8) : Bool :=
  decide (0x80 ≤ b) && decide (b ≤ 0xBF)

/-- The character whose number has the low `six` bits of each following byte after `head`. -/
def assemble (head : Nat) (tails : List UInt8) : Char :=
  Char.ofNat (tails.foldl (fun n b => n * 64 + b.toNat % 64) head)

/-- Whether `b` may follow the lead byte `a` of a sequence of three: no overlong form, no
surrogate. -/
def second3 (a b : UInt8) : Bool :=
  isTail b && !(a == 0xE0 && decide (b < 0xA0)) && !(a == 0xED && decide (b > 0x9F))

/-- Whether `b` may follow the lead byte `a` of a sequence of four: no overlong form, nothing
above the last code point. -/
def second4 (a b : UInt8) : Bool :=
  isTail b && !(a == 0xF0 && decide (b < 0x90)) && !(a == 0xF4 && decide (b > 0x8F))

/-- The characters that a sequence of bytes encodes. -/
def decode : Bytes → Option (List Char)
  | [] => some []
  | a :: rest =>
    if a < 0x80 then (decode rest).map (assemble a.toNat [] :: ·)
    else if a < 0xC2 then none
    else
      match rest with
      | [] => none
      | b :: rest =>
        if a < 0xE0 then
          if isTail b then (decode rest).map (assemble (a.toNat - 0xC0) [b] :: ·) else none
        else
          match rest with
          | [] => none
          | c :: rest =>
            if a < 0xF0 then
              if second3 a b && isTail c then
                (decode rest).map (assemble (a.toNat - 0xE0) [b, c] :: ·)
              else none
            else
              match rest with
              | [] => none
              | d :: rest =>
                if a < 0xF5 && second4 a b && isTail c && isTail d then
                  (decode rest).map (assemble (a.toNat - 0xF0) [b, c, d] :: ·)
                else none

/-- Whether more bytes can make a character of these. -/
def isBeginning : Bytes → Bool
  | [] => true
  | [a] => decide (0xC2 ≤ a) && decide (a < 0xF5)
  | [a, b] =>
    decide (0xE0 ≤ a) && decide (a < 0xF5) && if a < 0xF0 then second3 a b else second4 a b
  | [a, b, c] => decide (0xF0 ≤ a) && decide (a < 0xF5) && second4 a b && isTail c
  | _ => false

/-- The characters that a sequence of bytes encodes, and the bytes at its end that more bytes can
make another one of. -/
def decodeComplete (bytes : Bytes) : Option (List Char × Bytes) :=
  [0, 1, 2, 3].findSome? fun n =>
    let (whole, held) := bytes.splitAt (bytes.length - n)
    if isBeginning held then (decode whole).map (·, held) else none

/-- What the lead byte `a` begins: a character, or the beginning of none, with the number of
the bytes after `a` that belong to it. -/
def sequenceOf (a : UInt8) (rest : Bytes) : Option Char × Nat :=
  if a < 0x80 then (some (assemble a.toNat []), 0)
  else if a < 0xC2 || a > 0xF4 then (none, 0)
  else
    match rest with
    | [] => (none, 0)
    | b :: rest =>
      if a < 0xE0 then
        if isTail b then (some (assemble (a.toNat - 0xC0) [b]), 1) else (none, 0)
      else if a < 0xF0 then
        if !second3 a b then (none, 0)
        else
          match rest with
          | c :: _ => if isTail c then (some (assemble (a.toNat - 0xE0) [b, c]), 2) else (none, 1)
          | [] => (none, 1)
      else if !second4 a b then (none, 0)
      else
        match rest with
        | c :: d :: _ =>
          if !isTail c then (none, 1)
          else if isTail d then (some (assemble (a.toNat - 0xF0) [b, c, d]), 3)
          else (none, 2)
        | [c] => (none, if isTail c then 2 else 1)
        | [] => (none, 1)

/-- The characters of what comes after bytes that have already been read. -/
def decodeLossyAfter (read : Nat) : Bytes → List Char
  | [] => []
  | a :: rest =>
    match read with
    | n + 1 => decodeLossyAfter n rest
    | 0 =>
      let (c, n) := sequenceOf a rest
      c.getD '\ufffd' :: decodeLossyAfter n rest

/-- The characters that a sequence of bytes encodes, with a replacement character for bytes that
encode none. -/
def decodeLossy (b : Bytes) : List Char :=
  decodeLossyAfter 0 b

end Utf8

namespace Text

/-- The bytes of a text, unless it holds a lone surrogate. -/
def utf8? (t : Text) : Option Bytes :=
  t.chars?.map fun cs => cs.flatMap String.utf8EncodeChar

/-- The bytes of a text all of whose code points are among the first 128. -/
def ascii? (t : Text) : Option Bytes :=
  if t.all CodePoint.isAscii then some (t.map fun c => UInt8.ofNat c.code) else none

/-- The text of bytes below 128, one code point for each. -/
def ofAscii (b : Bytes) : Text :=
  b.map fun x => CodePoint.ofNat x.toNat

end Text

end JenkinsAdmission
