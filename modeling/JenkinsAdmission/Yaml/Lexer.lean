import JenkinsAdmission.Yaml.Scalar.Block
import JenkinsAdmission.Yaml.Scalar.Quoted

/-!
# From characters to tokens

The lexer turns the characters of a stream into its tokens. Two things make it more than a division
into words.

**Indentation.** Outside brackets a deeper column opens a collection and a shallower one closes it,
so the lexer keeps the columns of all open collections.

**Keys.** That something is a key shows only at the colon after it. So the lexer remembers, for each
level of brackets, the last place where a key may have started, and puts the key's tokens in there
when it meets the colon. Such a **candidate** is given up when the line ends or 1024 characters
have passed. A candidate at the indentation of its collection must not be given up.

A fault is not raised at once: the tokens before it are still good, except those from the first
candidate on, of which it is not known yet what stands before them (`Lexer.released`).
-/

namespace JenkinsAdmission.Yaml

/-- A place where a key may have started. -/
structure Candidate where
  /-- the number of tokens before it -/
  position : Nat
  /-- whether something else than a key would be a fault -/
  required : Bool
  /-- the number of characters before it -/
  index : Nat
  /-- its line -/
  line : Nat
  /-- its column -/
  column : Nat

/-- The state of the lexer. -/
structure Lexer where
  /-- the place in the stream -/
  cursor : Cursor
  /-- the number of open brackets -/
  flowLevel : Nat
  /-- the column of the innermost open collection -/
  indent : Int
  /-- the columns of the collections around it -/
  outer : List Int
  /-- whether a key may start here -/
  keyAllowed : Bool
  /-- the candidates by level of brackets -/
  candidates : List (Nat × Candidate)
  /-- the tokens so far -/
  tokens : Array Token

namespace Lexer

/-- The state at the start of a stream. -/
def start (s : Source) : Lexer where
  cursor := .start s
  flowLevel := 0
  indent := -1
  outer := []
  keyAllowed := true
  candidates := []
  tokens := #[]

/-- Whether the lexer is inside brackets. -/
def inFlow (l : Lexer) : Bool := l.flowLevel != 0

/-- The column as it compares with indentations. -/
def column (l : Lexer) : Int := l.cursor.column

/-- The lexer with one more token. -/
def emit (l : Lexer) (t : Token) : Lexer := { l with tokens := l.tokens.push t }

/-- The lexer with one more token of `n` characters. -/
def emitOver (l : Lexer) (n : Nat) (t : Token) : Except Fault Lexer := do
  let c ← l.cursor.forward n
  .ok ({ l with cursor := c }.emit t)

/-! ## Candidates -/

/-- The candidate of the current level. -/
def candidate? (l : Lexer) : Option Candidate := l.candidates.lookup l.flowLevel

/-- The lexer without the candidate of the current level. -/
def forget (l : Lexer) : Lexer :=
  { l with candidates := l.candidates.filter fun e => e.1 != l.flowLevel }

/-- The lexer without the candidate of the current level, which must not be a required one. -/
def dropCandidate (l : Lexer) : Except Fault Lexer :=
  match l.candidate? with
  | some k => if k.required then refuse .missingColon else .ok l.forget
  | none => .ok l

/-- The lexer with a candidate at the current place, if a key may start here. -/
def saveCandidate (l : Lexer) : Except Fault Lexer :=
  if !l.keyAllowed then .ok l
  else do
    let l ← l.dropCandidate
    let k : Candidate :=
      ⟨l.tokens.size, !l.inFlow && l.indent == l.column, l.cursor.index, l.cursor.line,
        l.cursor.column⟩
    .ok { l with candidates := (l.flowLevel, k) :: l.candidates }

/-- Whether a candidate has to be given up. -/
def isStale (l : Lexer) (k : Candidate) : Bool :=
  k.line != l.cursor.line || decide (1024 < l.cursor.index - k.index)

/-- The lexer without the candidates that have to be given up. -/
def dropStale (l : Lexer) : Except Fault Lexer :=
  if l.candidates.any fun e => l.isStale e.2 && e.2.required then refuse .missingColon
  else .ok { l with candidates := l.candidates.filter fun e => !l.isStale e.2 }

/-- The tokens that do not wait for a candidate. -/
def released (l : Lexer) : List Token :=
  l.tokens.toList.take (l.candidates.foldl (fun n e => min n e.2.position) l.tokens.size)

/-! ## Indentation -/

/-- The lexer after the collections that a column closes. -/
def unwind (l : Lexer) (column : Int) : Lexer :=
  if l.inFlow then l else go l l.outer
where
  /-- Close collections while the column is to the left of the innermost one. -/
  go (l : Lexer) : List Int → Lexer
    | [] => l
    | i :: rest =>
      if column < l.indent then go (({ l with indent := i, outer := rest }).emit .blockEnd) rest
      else l

/-- The lexer after a column was made that of a new innermost collection, and whether it was. -/
def open? (l : Lexer) (column : Int) : Bool × Lexer :=
  if l.indent < column then (true, { l with indent := column, outer := l.indent :: l.outer })
  else (false, l)

/-- The lexer after a collection was opened at the current column, if that is a deeper one. -/
def openHere (l : Lexer) (t : Token) : Lexer :=
  match l.open? l.column with
  | (true, l) => l.emit t
  | (false, l) => l

/-! ## Tokens -/

/-- Pass white space, comments and line ends. After a line end a key may start, unless inside
brackets. -/
def skipBlank (l : Lexer) : Nat → Except Fault Lexer
  | 0 => .ok l
  | fuel + 1 => do
    let c ← (← l.cursor.skipSpaces).skipComment
    match ← c.lineEnd? with
    | some (_, c) => skipBlank { l with cursor := c, keyAllowed := l.keyAllowed || !l.inFlow } fuel
    | none => .ok { l with cursor := c }

/-- Pass a byte order mark at the start of the stream. -/
def skipMark (l : Lexer) : Except Fault Lexer := do
  if l.cursor.index = 0 ∧ l.cursor.peek = some byteOrderMark then
    .ok { l with cursor := ← l.cursor.advance }
  else .ok l

/-- Close all collections, as the end of a document does. -/
def closeAll (l : Lexer) : Except Fault Lexer := do
  let l ← (l.unwind (-1)).dropCandidate
  .ok { l with keyAllowed := false }

/-- The end of the stream. -/
def streamEnd (l : Lexer) : Except Fault Lexer := do
  let l ← l.closeAll
  .ok ({ l with candidates := [] }.emit .streamEnd)

/-- A directive. -/
def directive (l : Lexer) : Except Fault Lexer := do
  let l ← l.closeAll
  let (d, c) ← l.cursor.directive
  .ok ({ l with cursor := c }.emit (.directive d))

/-- The marker of a document's start or end. -/
def documentMarker (l : Lexer) (t : Token) : Except Fault Lexer := do
  let l ← l.closeAll
  l.emitOver 3 t

/-- An opening bracket. -/
def openBracket (l : Lexer) (t : Token) : Except Fault Lexer := do
  let l ← l.saveCandidate
  { l with flowLevel := l.flowLevel + 1, keyAllowed := true }.emitOver 1 t

/-- A closing bracket. -/
def closeBracket (l : Lexer) (t : Token) : Except Fault Lexer := do
  let l ← l.dropCandidate
  { l with flowLevel := l.flowLevel - 1, keyAllowed := false }.emitOver 1 t

/-- A comma between brackets. -/
def comma (l : Lexer) : Except Fault Lexer := do
  let l ← { l with keyAllowed := true }.dropCandidate
  l.emitOver 1 .flowEntry

/-- The lexer at an indicator that opens a collection outside brackets, where a key may start. -/
def openAtIndicator (l : Lexer) (t : Token) : Except Fault Lexer :=
  if l.inFlow then .ok l
  else if !l.keyAllowed then refuse .misplacedIndicator
  else .ok (l.openHere t)

/-- The dash of an entry. -/
def blockEntry (l : Lexer) : Except Fault Lexer := do
  let l ← l.openAtIndicator .blockSequenceStart
  let l ← { l with keyAllowed := true }.dropCandidate
  l.emitOver 1 .blockEntry

/-- The question mark of a key. -/
def explicitKey (l : Lexer) : Except Fault Lexer := do
  let l ← l.openAtIndicator .blockMappingStart
  let l ← { l with keyAllowed := !l.inFlow }.dropCandidate
  l.emitOver 1 .key

/-- The lexer with a token put in at a position. -/
def insertAt (l : Lexer) (position : Nat) (t : Token) : Lexer :=
  { l with tokens := l.tokens.insertIdxIfInBounds position t }

/-- The colon after a candidate. -/
def valueOf (l : Lexer) (k : Candidate) : Except Fault Lexer :=
  let l := { l.forget with keyAllowed := false }.insertAt k.position .key
  let (opened, l) := if l.inFlow then (false, l) else l.open? k.column
  (if opened then l.insertAt k.position .blockMappingStart else l).emitOver 1 .value

/-- A colon. -/
def value (l : Lexer) : Except Fault Lexer :=
  match l.candidate? with
  | some k => l.valueOf k
  | none => do
    let l ← l.openAtIndicator .blockMappingStart
    let l ← { l with keyAllowed := !l.inFlow }.dropCandidate
    l.emitOver 1 .value

/-- A token of a node that may be a key. -/
def nodeToken {α : Type} (l : Lexer) (read : Cursor → Except Fault (α × Cursor))
    (token : α → Token) : Except Fault Lexer := do
  let l ← l.saveCandidate
  let (a, c) ← read l.cursor
  .ok ({ l with cursor := c, keyAllowed := false }.emit (token a))

/-- A block scalar. A key may follow it. -/
def blockScalar (l : Lexer) (folded : Bool) : Except Fault Lexer := do
  let l ← { l with keyAllowed := true }.dropCandidate
  let (text, c) ← l.cursor.blockScalar folded l.indent
  .ok ({ l with cursor := c }.emit (.scalar (Text.ofChars text) false))

/-- A plain scalar. A key may follow it on another line. -/
def plainScalar (l : Lexer) : Except Fault Lexer := do
  let l ← l.saveCandidate
  let s ← l.cursor.plainScalar l.inFlow (l.indent + 1)
  .ok ({ l with cursor := s.after, keyAllowed := s.overLine }.emit
    (.scalar (Text.ofChars s.text) true))

/-- Whether the character is that of a document's marker and the marker follows. -/
def isMarker (l : Lexer) (ch mark : Char) : Except Fault Bool :=
  if ch = mark ∧ l.cursor.column = 0 then l.cursor.atMarker mark else .ok false

/-- Whether the character is an indicator, which has to be a part by itself unless it is `free`. -/
def isIndicator (l : Lexer) (ch indicator : Char) (free : Bool) : Except Fault Bool :=
  if ch ≠ indicator then .ok false
  else if free then .ok true
  else do .ok (endsPart (← l.cursor.peekAt 1))

/-- Whether a character starts a plain scalar. Some indicators do if no part ends behind them. -/
def startsPlain (l : Lexer) (ch : Char) : Except Fault Bool :=
  if !endsPart (some ch) && !isOneOf "-?:,[]\x7b\x7d#&*!|>'\"%@\x60" (some ch) then .ok true
  else do
    let free := !endsPart (← l.cursor.peekAt 1)
    .ok (free && (ch == '-' || (!l.inFlow && (ch == '?' || ch == ':'))))

/-- The token that starts with a character. -/
def tokenAt (l : Lexer) (ch : Char) : Except Fault Lexer := do
  if ch = '%' ∧ l.cursor.column = 0 then l.directive
  else if ← l.isMarker ch '-' then l.documentMarker .documentStart
  else if ← l.isMarker ch '.' then l.documentMarker .documentEnd
  else if ch = '[' then l.openBracket .flowSequenceStart
  else if ch = '\x7b' then l.openBracket .flowMappingStart
  else if ch = ']' then l.closeBracket .flowSequenceEnd
  else if ch = '\x7d' then l.closeBracket .flowMappingEnd
  else if ch = ',' then l.comma
  else if ← l.isIndicator ch '-' false then l.blockEntry
  else if ← l.isIndicator ch '?' l.inFlow then l.explicitKey
  else if ← l.isIndicator ch ':' l.inFlow then l.value
  else if ch = '*' then l.nodeToken Cursor.anchorName .alias
  else if ch = '&' then l.nodeToken Cursor.anchorName .anchor
  else if ch = '!' then l.nodeToken Cursor.tagName .tag
  else if (ch = '|' ∨ ch = '>') ∧ !l.inFlow then l.blockScalar (ch == '>')
  else if ch = '\'' ∨ ch = '"' then l.nodeToken (Cursor.quotedScalar · ch) (.scalar · false)
  else if ← l.startsPlain ch then l.plainScalar
  else refuse .strayCharacter

/-- The lexer after the next token, and whether it was the last. -/
def next (l : Lexer) : Except Fault (Bool × Lexer) := do
  let l ← l.skipMark
  let l ← (← l.skipBlank (l.cursor.rest.length + 1)).dropStale
  let l := l.unwind l.column
  match l.cursor.peek with
  | none => .ok (true, ← l.streamEnd)
  | some ch => .ok (false, ← l.tokenAt ch)

/-- The tokens of the rest of the stream. -/
def run (l : Lexer) : Nat → Tokens
  | 0 => ⟨l.released, some (.malformed .strayCharacter)⟩
  | fuel + 1 =>
    match l.dropStale with
    | .error fault => ⟨l.released, some fault⟩
    | .ok l =>
      match l.next with
      | .error fault => ⟨l.released, some fault⟩
      | .ok (true, l) => ⟨l.tokens.toList, none⟩
      | .ok (false, l) => l.run fuel

end Lexer

/-- The tokens of a stream. Every token but the last takes a character at least. -/
def tokenize (s : Source) : Tokens :=
  match s.chars, s.fault with
  | [], some fault => ⟨[], some fault⟩
  | chars, _ => (Lexer.start s).run (chars.length + 1)

end JenkinsAdmission.Yaml
