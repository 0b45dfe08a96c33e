import JenkinsAdmission.Number.Numeral
import JenkinsAdmission.Unicode.Utf8
import JenkinsAdmission.Yaml.Cursor
import JenkinsAdmission.Yaml.Token

/-!
# Directives, anchors and tags

The tokens that are made of names. Each reader starts at the indicator and gives the token's content
with the cursor after it.
-/

namespace JenkinsAdmission.Yaml

namespace Cursor

/-! ## Anchors -/

/-- The name of an anchor or of an alias. -/
def anchorName (c : Cursor) : Except Fault (String × Cursor) := do
  let c ← c.advance
  let name := c.word isNameChar
  let after ← c.forward name.length
  if name.isEmpty then refuse .badAnchor
  else if endsPart after.peek || isOneOf "?:,]\x7d%@`" after.peek then
    .ok (String.ofList name, after)
  else refuse .badAnchor

/-! ## Tags -/

/-- The value of a hexadecimal digit. -/
def hexValue? (c : Char) : Option Nat :=
  if c.isDigit then some (c.toNat - '0'.toNat)
  else if 'a' ≤ c ∧ c ≤ 'f' then some (c.toNat - 'a'.toNat + 10)
  else if 'A' ≤ c ∧ c ≤ 'F' then some (c.toNat - 'A'.toNat + 10)
  else none

/-- The number with hexadecimal digits of the given values. -/
def hexadecimal (digits : List Nat) : Nat :=
  digits.foldl (fun n digit => n * 16 + digit) 0

/-- The values of `n` characters from the `i`-th on, all of which have to be hexadecimal digits. -/
def hexDigits (c : Cursor) (rule : Malformation) (i : Nat) : Nat → Except Fault (List Nat)
  | 0 => .ok []
  | n + 1 => do
    match (← c.peekAt i).bind hexValue? with
    | some digit => .ok (digit :: (← c.hexDigits rule (i + 1) n))
    | none => refuse rule

/-- The number that the next `width` characters stand for. -/
def hexNumber (c : Cursor) (width : Nat) (rule : Malformation) : Except Fault Nat := do
  .ok (hexadecimal (← c.hexDigits rule 0 width))

/-- The characters of a tag other than the percent sign. -/
def isTagChar (c : Char) : Bool :=
  c.isAlphanum || "-;/?:@&=+$,_.!~*'()[]".toList.contains c

/-- The bytes of a run of percent escapes. -/
def escapedBytes (c : Cursor) : Nat → Except Fault (Bytes × Cursor)
  | 0 => .ok ([], c)
  | fuel + 1 =>
    if c.peek = some '%' then do
      let c ← c.advance
      let n ← c.hexNumber 2 .badTag
      let (bytes, c) ← (← c.forward 2).escapedBytes fuel
      .ok (UInt8.ofNat n :: bytes, c)
    else .ok ([], c)

/-- The text of the rest of a tag, with its percent escapes read as UTF-8. -/
def tagText (c : Cursor) : Nat → Except Fault (List Char × Cursor)
  | 0 => .ok ([], c)
  | fuel + 1 =>
    match c.peek with
    | none => .ok ([], c)
    | some ch =>
      if isTagChar ch then do
        let (text, c) ← (← c.advance).tagText fuel
        .ok (ch :: text, c)
      else if ch = '%' then do
        let (bytes, c) ← c.escapedBytes (c.rest.length + 1)
        match Utf8.decode bytes with
        | none => refuse .badTag
        | some chars =>
          let (text, c) ← c.tagText fuel
          .ok (chars ++ text, c)
      else .ok ([], c)

/-- The text of the rest of a tag, which is not empty. -/
def tagSuffix (c : Cursor) : Except Fault (String × Cursor) := do
  let (text, after) ← c.tagText (c.rest.length + 1)
  if text.isEmpty then refuse .badTag else .ok (String.ofList text, after)

/-- A handle: an exclamation mark, or a name between two. -/
def tagHandle (c : Cursor) (rule : Malformation) : Except Fault (String × Cursor) := do
  if c.peek ≠ some '!' then refuse rule
  else if (← c.peekAt 1) = some ' ' then .ok ("!", ← c.advance)
  else
    let name := c.after.word isNameChar
    let mark ← c.forward (name.length + 1)
    if mark.peek = some '!' then .ok (String.ofList ('!' :: name ++ ['!']), ← mark.advance)
    else refuse rule

/-- Whether another exclamation mark follows on the same word. -/
def hasHandle (c : Cursor) : Except Fault Bool := do
  let word := c.after.word fun ch => !(ch == ' ' || isLineEnd ch)
  if word.contains '!' then .ok true
  else
    c.reach (word.length + 2)
    .ok false

/-- The name of a tag before the check of what follows it. -/
def openTagName (c : Cursor) : Except Fault (TagName × Cursor) := do
  let next ← c.peekAt 1
  if next = some '<' then
    let (suffix, c) ← (← c.forward 2).tagSuffix
    if c.peek = some '>' then .ok (⟨none, suffix⟩, ← c.advance) else refuse .badTag
  else if endsPart next then .ok (⟨none, "!"⟩, ← c.advance)
  else if ← c.hasHandle then
    let (handle, c) ← c.tagHandle .badTag
    let (suffix, c) ← c.tagSuffix
    .ok (⟨some handle, suffix⟩, c)
  else
    let (suffix, c) ← (← c.advance).tagSuffix
    .ok (⟨some "!", suffix⟩, c)

/-- The name of a tag. -/
def tagName (c : Cursor) : Except Fault (TagName × Cursor) := do
  let (name, c) ← c.openTagName
  if endsWord c.peek then .ok (name, c) else refuse .badTag

/-! ## Directives -/

/-- A decimal number of a version. -/
def versionNumber (c : Cursor) : Except Fault (Nat × Cursor) := do
  let digits := c.word Char.isDigit
  let after ← c.forward digits.length
  if digits.isEmpty then refuse .badDirective
  else if Numeral.maxDigits < digits.length then .error (.broken .badNumeral)
  else .ok ((String.ofList digits).toNat?.getD 0, after)

/-- The version of a directive. -/
def version (c : Cursor) : Except Fault (Directive × Cursor) := do
  let (major, c) ← (← c.skipSpaces).versionNumber
  if c.peek ≠ some '.' then refuse .badDirective
  else
    let (minor, c) ← (← c.advance).versionNumber
    if endsWord c.peek then .ok (.version major minor, c) else refuse .badDirective

/-- The handle and the start of a directive. -/
def handleDefinition (c : Cursor) : Except Fault (Directive × Cursor) := do
  let (name, c) ← (← c.skipSpaces).tagHandle .badDirective
  if c.peek ≠ some ' ' then refuse .badDirective
  else
    let (start, c) ← (← c.skipSpaces).tagSuffix
    if endsWord c.peek then .ok (.handle name start, c) else refuse .badDirective

/-- What a directive of a name says. -/
def directiveOf (c : Cursor) (name : List Char) : Except Fault (Directive × Cursor) :=
  if name = "YAML".toList then c.version
  else if name = "TAG".toList then c.handleDefinition
  else do .ok (.reserved, ← c.skipLine)

/-- A directive with the rest of its line. -/
def directive (c : Cursor) : Except Fault (Directive × Cursor) := do
  let c ← c.advance
  let name := c.word isNameChar
  let c ← c.forward name.length
  if name.isEmpty || !endsWord c.peek then refuse .badDirective
  else
    let (d, c) ← c.directiveOf name
    .ok (d, ← c.finishLine .badDirective)

end Cursor

end JenkinsAdmission.Yaml
