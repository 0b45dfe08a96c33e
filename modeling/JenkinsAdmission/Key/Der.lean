import JenkinsAdmission.Unicode.Utf8

/-!
# DER elements

The distinguished encoding rules. An **element** is a tag, a length in its shortest form, and that
many bytes of content. There is one way to write an element, so two elements are equal when their
bytes are.

* `Der.elements?` reads a sequence of bytes as elements with nothing left over.
* `Der.natural?` reads an INTEGER that is not negative.
* `Der.isIdentifier`, `Der.isOrdered` and `Der.bitString?` check what an OBJECT IDENTIFIER, a SET
  and a BIT STRING have to fulfil.
* `Der.Element.bytes` writes an element.
-/

namespace JenkinsAdmission.Der

/-- A tag as written, which is a single byte for the usual ones. -/
abbrev Tag := Bytes

/-- A tagged content. -/
structure Element where
  /-- the tag -/
  tag : Tag
  /-- the content -/
  content : Bytes
  deriving DecidableEq

/-- The tag of an INTEGER. -/
def integer : Tag := [0x02]
/-- The tag of a BIT STRING. -/
def bitString : Tag := [0x03]
/-- The tag of an OCTET STRING. -/
def octetString : Tag := [0x04]
/-- The tag of NULL. -/
def null : Tag := [0x05]
/-- The tag of an OBJECT IDENTIFIER. -/
def objectIdentifier : Tag := [0x06]
/-- The tag of a SEQUENCE. -/
def sequence : Tag := [0x30]
/-- The tag of a SET. -/
def set : Tag := [0x31]
/-- The tag of the context-specific element of number `n` without parts. -/
def contextBytes (n : UInt8) : Tag := [0x80 + n]
/-- The tag of the context-specific element of number `n` with parts. -/
def context (n : UInt8) : Tag := [0xA0 + n]

/-- The number that bytes stand for, the most significant first. -/
def number (b : Bytes) : Nat :=
  b.foldl (fun n x => n * 256 + x.toNat) 0

/-! ## Reading -/

/-- A number in digits of seven bits and what follows it. All digits but the last have the high bit
set, and the first is not zero. -/
def septets? (b : Bytes) : Option (Nat × Bytes) :=
  let leading := b.takeWhile fun x => decide (0x80 ≤ x)
  match b.drop leading.length with
  | [] => none
  | last :: rest =>
    if leading.head? = some 0x80 then none
    else some ((leading ++ [last]).foldl (fun n x => n * 128 + x.toNat % 128) 0, rest)

/-- A tag and what follows it. A number of 31 or more, which does not fit into the first byte, is
written after it. -/
def tag? : Bytes → Option (Tag × Bytes)
  | [] => none
  | a :: rest =>
    if a % 0x20 ≠ 0x1F then some ([a], rest)
    else
      match septets? rest with
      | some (n, after) =>
        if 31 ≤ n ∧ n < 0x100000000 then
          some (a :: rest.take (rest.length - after.length), after)
        else none
      | none => none

/-- A length and what follows it. A length below 128 is one byte; a longer one is announced by the
count of its bytes, the first of which is not zero. -/
def length? : Bytes → Option (Nat × Bytes)
  | [] => none
  | a :: rest =>
    if a < 0x80 then some (a.toNat, rest)
    else
      let count := a.toNat - 0x80
      let digits := rest.take count
      if digits.length = count ∧ digits.head? ≠ some 0 ∧ 0x80 ≤ number digits then
        some (number digits, rest.drop count)
      else none

/-- The first element and what follows it. -/
def next? (b : Bytes) : Option (Element × Bytes) :=
  match tag? b with
  | none => none
  | some (tag, rest) =>
    match length? rest with
    | none => none
    | some (n, rest) =>
      if n ≤ rest.length then some (⟨tag, rest.take n⟩, rest.drop n) else none

theorem length_le_of_septets? {b rest : Bytes} {n : Nat} (h : septets? b = some (n, rest)) :
    rest.length ≤ b.length := by
  simp only [septets?] at h
  split at h
  · simp at h
  · rename_i last tail hd
    split at h
    · simp at h
    · have hl := congrArg List.length hd
      simp at h hl
      simp [← h.2]
      omega

theorem length_lt_of_tag? {b rest : Bytes} {t : Tag} (h : tag? b = some (t, rest)) :
    rest.length < b.length := by
  match b with
  | [] => simp [tag?] at h
  | a :: tail =>
    simp only [tag?] at h
    split at h
    · simp at h; simp [← h.2]
    · split at h
      · rename_i n after hs
        have := length_le_of_septets? hs
        split at h
        · simp at h; simp [← h.2]; omega
        · simp at h
      · simp at h

theorem length_le_of_length? {b rest : Bytes} {n : Nat} (h : length? b = some (n, rest)) :
    rest.length ≤ b.length := by
  match b with
  | [] => simp [length?] at h
  | a :: tail =>
    simp only [length?] at h
    split at h
    · simp at h; simp [← h.2]
    · split at h
      · simp at h; simp [← h.2]; omega
      · simp at h

theorem length_lt_of_next? {b rest : Bytes} {e : Element} (h : next? b = some (e, rest)) :
    rest.length < b.length := by
  simp only [next?] at h
  split at h
  · simp at h
  · rename_i t afterTag ht
    have := length_lt_of_tag? ht
    split at h
    · simp at h
    · rename_i n after hl
      have := length_le_of_length? hl
      split at h
      · simp at h; simp [← h.2]; omega
      · simp at h

/-- The elements that a sequence of bytes consists of. -/
def elements? (b : Bytes) : Option (List Element) :=
  if b.isEmpty then some []
  else
    match h : next? b with
    | none => none
    | some (e, rest) =>
      have := length_lt_of_next? h
      (elements? rest).map (e :: ·)
termination_by b.length

/-- The parts of an element with a tag. -/
def partsOf? (tag : Tag) (e : Element) : Option (List Element) :=
  if e.tag = tag then elements? e.content else none

/-- The one element that a sequence of bytes consists of. -/
def single? (b : Bytes) : Option Element := do
  let [e] ← elements? b | none
  some e

/-- The parts of the one element that a sequence of bytes consists of. -/
def elementsOf? (tag : Tag) (b : Bytes) : Option (List Element) :=
  (single? b).bind (partsOf? tag)

/-- The content of the one element that a sequence of bytes consists of. -/
def contentOf? (tag : Tag) (b : Bytes) : Option Bytes := do
  let e ← single? b
  if e.tag = tag then some e.content else none

/-- An optional part that is wrapped in an element of its own, and the parts after it. -/
def wrapped? (n : UInt8) : List Element → Option (Option Element × List Element)
  | [] => some (none, [])
  | e :: rest =>
    if e.tag = context n then (single? e.content).map fun inner => (some inner, rest)
    else some (none, e :: rest)

/-! ## Kinds of content -/

/-- The number of an INTEGER that is in its shortest form and not negative. -/
def natural? (e : Element) : Option Nat :=
  if e.tag ≠ integer then none
  else
    match e.content with
    | [] => none
    | [a] => if a < 0x80 then some a.toNat else none
    | a :: b :: _ =>
      if 0x80 ≤ a ∨ (a = 0 ∧ b < 0x80) then none else some (number e.content)

/-- The numbers of a SEQUENCE of INTEGERs that are not negative. -/
def naturals? (e : Element) : Option (List Nat) := do
  (← partsOf? sequence e).mapM natural?

/-- One more byte of an identifier, after what is known of the arc that is still open. An arc starts
with a digit that is not zero and stays below 2^128. -/
def arcStep (arc : Option Nat) (x : UInt8) : Option (Option Nat) :=
  let n := arc.getD 0 * 128 + x.toNat % 128
  if (arc.isNone ∧ x = 0x80) ∨ Nat.pow 2 128 ≤ n then none
  else some (if x < 0x80 then none else some n)

/-- Whether an element is an OBJECT IDENTIFIER of 63 bytes at most. -/
def isIdentifier (e : Element) : Bool :=
  e.tag == objectIdentifier && !e.content.isEmpty && decide (e.content.length ≤ 63)
    && e.content.foldlM arcStep none == some none

/-- Whether an element is NULL. -/
def isNull (e : Element) : Bool := e == ⟨null, []⟩

/-- The bytes of a BIT STRING. Up to seven bits of the last byte may be unused, and those are
zero. -/
def bitString? (e : Element) : Option Bytes :=
  match e.content with
  | [] => none
  | unused :: bytes =>
    let last := (bytes.getLast?.getD 0).toNat
    if e.tag = bitString ∧ unused ≤ 7 ∧ (bytes = [] → unused = 0)
        ∧ last % Nat.pow 2 unused.toNat = 0 then some bytes
    else none

/-! ## Writing -/

/-- The bytes of a number, the most significant first; none for zero. -/
def digits (n : Nat) : Bytes :=
  if n = 0 then [] else digits (n / 256) ++ [UInt8.ofNat n]
termination_by n

/-- A length as written. -/
def lengthBytes (n : Nat) : Bytes :=
  if n < 0x80 then [UInt8.ofNat n]
  else UInt8.ofNat (0x80 + (digits n).length) :: digits n

namespace Element

/-- An element as written. -/
def bytes (e : Element) : Bytes :=
  e.tag ++ lengthBytes e.content.length ++ e.content

/-- A SEQUENCE of elements. -/
def ofParts (parts : List Element) : Element := ⟨sequence, parts.flatMap bytes⟩

/-- The INTEGER of a number. -/
def ofNat (n : Nat) : Element :=
  let b := digits n
  ⟨integer, if (b.headD 0x80) < 0x80 then b else 0 :: b⟩

/-- The BIT STRING of bytes all of whose bits are used. -/
def ofBits (b : Bytes) : Element := ⟨bitString, 0 :: b⟩

end Element

/-- Whether no element is written less than the one before it, as it has to be in a SET. -/
def isOrdered : List Element → Bool
  | a :: b :: rest => !decide (b.bytes < a.bytes) && isOrdered (b :: rest)
  | _ => true

end JenkinsAdmission.Der
