import JenkinsAdmission.Yaml.Lexeme

/-!
# Plain scalars

A scalar without quotes is made of words with **gaps** between them. A word ends at white space, at
a colon that white space follows, and inside brackets also at any of their punctuation. A gap within
a line stands for its spaces; a gap over line ends is folded to the line ends less the first, or to
one space. The scalar ends before a comment, before the marker of a document, and where a line is
indented less than the scalar may be.
-/

namespace JenkinsAdmission.Yaml

/-- The characters of the word at the start. -/
def plainWord (inFlow : Bool) : List Char → List Char
  | [] => []
  | ch :: rest =>
    if endsPart (some ch)
        || (ch == ':' && (endsPart rest.head? || (inFlow && isOneOf ",[]\x7b\x7d" rest.head?)))
        || (inFlow && isOneOf ",?[]\x7b\x7d" (some ch)) then []
    else ch :: plainWord inFlow rest

/-- Line ends as they are folded: the first counts as a space if no other follows. -/
def foldLineEnds (first : Char) (others : List Char) : List Char :=
  if first ≠ '\n' then first :: others
  else if others.isEmpty then [' ']
  else others

namespace Cursor

/-- The characters of the word at the cursor. For a colon at its end the character behind it is
looked at as well. -/
def plainWord (c : Cursor) (inFlow : Bool) : Except Fault (List Char) := do
  let word := Yaml.plainWord inFlow c.rest
  if (← c.peekAt word.length) = some ':' then c.reach (word.length + 2)
  .ok word

/-- The line ends of blank lines, or nothing if a document marker follows one of them, and the
cursor after them. -/
def blankLines (c : Cursor) : Nat → Except Fault (Option (List Char) × Cursor)
  | 0 => .ok (some [], c)
  | fuel + 1 => do
    let c ← c.skipSpaces
    match ← c.lineEnd? with
    | none => .ok (some [], c)
    | some (ch, c) =>
      if ← c.atDocumentMarker then .ok (none, c)
      else
        let (others, c) ← c.blankLines fuel
        .ok (others.map (ch :: ·), c)

end Cursor

/-- What stands between two words. -/
structure Gap where
  /-- what it stands for; an empty gap ends the scalar -/
  text : List Char
  /-- whether it goes over a line end -/
  overLine : Bool
  /-- the cursor after it -/
  after : Cursor

namespace Cursor

/-- The gap from here on. -/
def gap (c : Cursor) : Except Fault Gap := do
  let spaces := c.word (· == ' ')
  let c ← c.forward spaces.length
  match ← c.lineEnd? with
  | none => .ok ⟨spaces, false, c⟩
  | some (first, c) =>
    if ← c.atDocumentMarker then .ok ⟨[], true, c⟩
    else
      match ← c.blankLines c.rest.length with
      | (none, c) => .ok ⟨[], true, c⟩
      | (some others, c) => .ok ⟨foldLineEnds first others, true, c⟩

end Cursor

/-- Whether the scalar ends with a gap. -/
def Gap.isLast (g : Gap) (inFlow : Bool) (indent : Int) : Bool :=
  g.text.isEmpty || g.after.peek == some '#' ||
    (!inFlow && decide ((g.after.column : Int) < indent))

/-- A plain scalar. -/
structure PlainScalar where
  /-- the folded text -/
  text : List Char
  /-- whether the last gap goes over a line end -/
  overLine : Bool
  /-- the cursor after it -/
  after : Cursor

namespace Cursor

/-- The words from here on with the gaps between them, after a gap that did or did not go over a
line end. -/
def plainWords (c : Cursor) (inFlow : Bool) (indent : Int) (overLine : Bool) :
    Nat → Except Fault PlainScalar
  | 0 => .ok ⟨[], overLine, c⟩
  | fuel + 1 => do
    let word ← c.plainWord inFlow
    if word.isEmpty then .ok ⟨[], overLine, c⟩
    else
      let gap ← (← c.forward word.length).gap
      if gap.isLast inFlow indent then .ok ⟨word, gap.overLine, gap.after⟩
      else
        let more ← gap.after.plainWords inFlow indent gap.overLine fuel
        if more.text.isEmpty then .ok { more with text := word }
        else .ok { more with text := word ++ gap.text ++ more.text }

/-- The plain scalar from here on. Its lines have to be indented by `indent` outside brackets. -/
def plainScalar (c : Cursor) (inFlow : Bool) (indent : Int) : Except Fault PlainScalar :=
  c.plainWords inFlow indent false c.rest.length

end Cursor

end JenkinsAdmission.Yaml
