import JenkinsAdmission.Yaml.Source

/-!
# Characters of a stream

A **cursor** walks through the characters of a stream. It knows what is left, and its index, line
and column, on which the structure of the stream depends.

Where the stream cannot be read to its end, the fault that stands in the way counts as soon as a
character beyond it is asked for. That may be sooner than the character is needed: whoever passes
characters asks for the one behind them as well. So a cursor that was moved always has a character
at hand, or is at the end of the stream.

The classes of characters take an optional one: at the end of the stream there is none, and the
end counts as the end of a line.
-/

namespace JenkinsAdmission.Yaml

/-- The byte order mark, which takes no room on a line. -/
def byteOrderMark : Char := '\ufeff'

/-- The characters that end a line. -/
def isLineEnd (c : Char) : Bool :=
  c == '\n' || c == '\u0085' || c == '\u2028' || c == '\u2029'

/-- What a line end contributes to a folded text: the separators stand for themselves. -/
def lineEndText (c : Char) : Char :=
  if c == '\u2028' || c == '\u2029' then c else '\n'

/-- The end of a line or of the stream. -/
def endsLine : Option Char → Bool
  | some c => isLineEnd c
  | none => true

/-- The end of a line or of the stream, or a space. -/
def endsWord : Option Char → Bool
  | some c => c == ' ' || isLineEnd c
  | none => true

/-- The end of a line or of the stream, or a space or a tab. -/
def endsPart : Option Char → Bool
  | some c => c == ' ' || c == '\t' || isLineEnd c
  | none => true

/-- Whether there is a character and it is one of the given. -/
def isOneOf (chars : String) : Option Char → Bool
  | some c => chars.toList.contains c
  | none => false

/-- The characters of anchors, of directive names and of tag handles. -/
def isNameChar (c : Char) : Bool :=
  c.isAlphanum || c == '-' || c == '_'

/-- A reading of a stream that breaks a rule. -/
def refuse {α : Type} (rule : Malformation) : Except Fault α := .error (.malformed rule)

/-- A place in a stream. -/
structure Cursor where
  /-- the characters that are left -/
  rest : List Char
  /-- why no others can be read, unless the stream ends after them -/
  fault : Option Fault
  /-- the number of characters before -/
  index : Nat
  /-- the number of line ends before -/
  line : Nat
  /-- the number of characters before on the same line -/
  column : Nat

namespace Cursor

/-- The start of a stream. -/
def start (s : Source) : Cursor := ⟨s.chars, s.fault, 0, 0, 0⟩

/-- Ask for the next `n` characters. At the end of the stream there may be fewer. -/
def reach (c : Cursor) (n : Nat) : Except Fault Unit :=
  match c.fault with
  | some fault => if (c.rest.take n).length < n then .error fault else .ok ()
  | none => .ok ()

/-- The next character. -/
def peek (c : Cursor) : Option Char := c.rest.head?

/-- The character after `n` others. -/
def peekAt (c : Cursor) (n : Nat) : Except Fault (Option Char) := do
  c.reach (n + 1)
  .ok c.rest[n]?

/-- The place after the next character. -/
def after (c : Cursor) : Cursor :=
  match c.rest with
  | [] => c
  | ch :: rest =>
    if isLineEnd ch then ⟨rest, c.fault, c.index + 1, c.line + 1, 0⟩
    else ⟨rest, c.fault, c.index + 1, c.line, if ch = byteOrderMark then c.column else c.column + 1⟩

/-- The cursor after the next `n` characters. -/
def forward (c : Cursor) (n : Nat) : Except Fault Cursor := do
  c.reach (n + 1)
  .ok (n.repeat after c)

/-- The cursor after the next character. -/
def advance (c : Cursor) : Except Fault Cursor := c.forward 1

/-- The characters of a class from here on. -/
def word (c : Cursor) (among : Char → Bool) : List Char := c.rest.takeWhile among

/-- The cursor after the characters of a class. -/
def skip (c : Cursor) (among : Char → Bool) : Except Fault Cursor :=
  c.forward (c.word among).length

/-- The cursor after spaces. -/
def skipSpaces (c : Cursor) : Except Fault Cursor := c.skip (· == ' ')

/-- The cursor at the end of the line. -/
def skipLine (c : Cursor) : Except Fault Cursor := c.skip fun ch => !isLineEnd ch

/-- A line end, if there is one, and the cursor after it. -/
def lineEnd? (c : Cursor) : Except Fault (Option (Char × Cursor)) :=
  match c.peek with
  | some ch => if isLineEnd ch then do .ok (some (lineEndText ch, ← c.advance)) else .ok none
  | none => .ok none

/-- The cursor after a comment, if there is one. -/
def skipComment (c : Cursor) : Except Fault Cursor :=
  if c.peek = some '#' then c.skipLine else .ok c

/-- The cursor after spaces, a comment and the line end that must follow. -/
def finishLine (c : Cursor) (rule : Malformation) : Except Fault Cursor := do
  let c ← c.skipSpaces
  let c ← c.skipComment
  if endsLine c.peek then c.advance else refuse rule

/-- Whether three of the given character and the end of a part follow. -/
def atMarker (c : Cursor) (ch : Char) : Except Fault Bool := do
  c.reach 3
  if [ch, ch, ch].isPrefixOf c.rest then .ok (endsPart (← c.peekAt 3)) else .ok false

/-- Whether the marker of a document's start or end follows. -/
def atDocumentMarker (c : Cursor) : Except Fault Bool := do
  if ← c.atMarker '-' then .ok true else c.atMarker '.'

end Cursor

end JenkinsAdmission.Yaml
