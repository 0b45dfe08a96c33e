import JenkinsAdmission.Yaml.Scalar.Plain

/-!
# Quoted scalars

Between single quotes every character stands for itself and a doubled quote for one. Between double
quotes a backslash starts an escape: a letter for a character, the number of a code point, or a line
end that counts for nothing. White space around a line end is dropped and line ends are folded, but
white space within a line is kept. No document marker may stand inside.
-/

namespace JenkinsAdmission.Yaml

/-- The character of an escape by one letter. -/
def escapedChar? (c : Char) : Option Char :=
  [('0', '\x00'), ('a', '\x07'), ('b', '\x08'), ('t', '\t'), ('\t', '\t'), ('n', '\n'),
    ('v', '\x0b'), ('f', '\x0c'), ('r', '\r'), ('e', '\x1b'), (' ', ' '), ('"', '"'),
    ('\\', '\\'), ('/', '/'), ('N', '\u0085'), ('_', '\u00a0'), ('L', '\u2028'),
    ('P', '\u2029')].lookup c

/-- The number of digits of an escape by number. -/
def escapeWidth? (c : Char) : Option Nat :=
  [('x', 2), ('u', 4), ('U', 8)].lookup c

namespace Cursor

/-- Line ends with the white space around them, from the start of a line on. -/
def foldedBreaks (c : Cursor) : Nat → Except Fault (List Char × Cursor)
  | 0 => refuse .badQuotedScalar
  | fuel + 1 => do
    if ← c.atDocumentMarker then refuse .badQuotedScalar
    else
      let c ← c.skip fun ch => ch == ' ' || ch == '\t'
      match ← c.lineEnd? with
      | none => .ok ([], c)
      | some (ch, c) =>
        let (others, c) ← c.foldedBreaks fuel
        .ok (ch :: others, c)

/-- White space, or line ends with the white space around them. -/
def quotedSpace (c : Cursor) : Except Fault (List Char × Cursor) := do
  let spaces := c.word fun ch => ch == ' ' || ch == '\t'
  let c ← c.forward spaces.length
  match ← c.lineEnd? with
  | none => .ok (spaces, c)
  | some (first, c) =>
    let (others, c) ← c.foldedBreaks (c.rest.length + 1)
    .ok (foldLineEnds first others, c)

/-- The code point of a number. -/
def codePoint (n : Nat) : Except Fault CodePoint :=
  match CodePoint.ofNat? n with
  | some p => .ok p
  | none => .error (.broken (if 0x7FFFFFFF < n then .numberTooLarge else .noCodePoint))

/-- An escape, after its backslash. -/
def escape (c : Cursor) : Except Fault (Text × Cursor) :=
  match c.peek with
  | none => refuse .badQuotedScalar
  | some ch =>
    match escapedChar? ch, escapeWidth? ch with
    | some e, _ => do .ok ([.scalar e], ← c.advance)
    | none, some width => do
      let c ← c.advance
      let p ← codePoint (← c.hexNumber width .badQuotedScalar)
      .ok ([p], ← c.forward width)
    | none, none =>
      if isLineEnd ch then do
        let c ← c.advance
        let (others, c) ← c.foldedBreaks (c.rest.length + 1)
        .ok (Text.ofChars others, c)
      else refuse .badQuotedScalar

/-- Whether another quote follows on a single one. -/
def isDoubled (c : Cursor) (quote : Char) : Except Fault Bool :=
  if quote = '\'' then do .ok ((← c.peekAt 1) == some '\'') else .ok false

/-- The text up to the closing quote, after the opening one. -/
def quotedText (c : Cursor) (quote : Char) : Nat → Except Fault (Text × Cursor)
  | 0 => refuse .badQuotedScalar
  | fuel + 1 =>
    match c.peek with
    | none => refuse .badQuotedScalar
    | some ch => do
      if ch = quote then
        if ← c.isDoubled quote then
          let (t, c) ← (← c.forward 2).quotedText quote fuel
          .ok (.scalar ch :: t, c)
        else .ok ([], ← c.advance)
      else if quote = '"' ∧ ch = '\\' then
        let (e, c) ← (← c.advance).escape
        let (t, c) ← c.quotedText quote fuel
        .ok (e ++ t, c)
      else if endsPart (some ch) then
        let (s, c) ← c.quotedSpace
        let (t, c) ← c.quotedText quote fuel
        .ok (Text.ofChars s ++ t, c)
      else
        let (t, c) ← (← c.advance).quotedText quote fuel
        .ok (.scalar ch :: t, c)

/-- The scalar from its opening quote on. -/
def quotedScalar (c : Cursor) (quote : Char) : Except Fault (Text × Cursor) := do
  (← c.advance).quotedText quote (c.rest.length + 1)

end Cursor

end JenkinsAdmission.Yaml
