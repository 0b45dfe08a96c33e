import JenkinsAdmission.Yaml.Lexeme

/-!
# Block scalars

A scalar made of indented lines after a header. The header says whether the lines are kept as they
are or **folded**, how far they are indented if that cannot be seen from the first of them, and what
becomes of the line ends at the end. Folding joins two lines by a space where both start with
something other than white space.
-/

namespace JenkinsAdmission.Yaml

/-- What becomes of the line ends at the end. -/
inductive Chomping
  /-- the first is kept -/
  | clip
  /-- none is kept -/
  | strip
  /-- all are kept -/
  | keep
  deriving DecidableEq

/-- The line ends at the end that remain, given the first and the others. -/
def Chomping.tail (chomping : Chomping) (first others : List Char) : List Char :=
  match chomping with
  | clip => first
  | strip => []
  | keep => first ++ others

/-- The sign of a way to chomp. -/
def chomping? (c : Option Char) : Option Chomping :=
  match c with
  | some '+' => some .keep
  | some '-' => some .strip
  | _ => none

/-- The header of a block scalar. -/
structure BlockHeader where
  /-- what becomes of the line ends at the end -/
  chomping : Chomping
  /-- the indentation relative to the surrounding one, if given -/
  increment : Option Nat

namespace Cursor

/-- An indentation from 1 to 9, if a digit follows. -/
def increment? (c : Cursor) : Except Fault (Option Nat × Cursor) :=
  match c.peek with
  | some ch =>
    if ch = '0' then refuse .badBlockScalar
    else if ch.isDigit then do .ok (some (ch.toNat - '0'.toNat), ← c.advance)
    else .ok (none, c)
  | none => .ok (none, c)

/-- What the header says. Sign and digit come in either order. -/
def indicators (c : Cursor) : Except Fault (BlockHeader × Cursor) :=
  match chomping? c.peek with
  | some chomping => do
    let (increment, c) ← (← c.advance).increment?
    .ok (⟨chomping, increment⟩, c)
  | none => do
    let (increment, c) ← c.increment?
    match increment, chomping? c.peek with
    | some _, some chomping => .ok (⟨chomping, increment⟩, ← c.advance)
    | _, _ => .ok (⟨.clip, increment⟩, c)

/-- The header of a block scalar with the rest of its line. -/
def blockHeader (c : Cursor) : Except Fault (BlockHeader × Cursor) := do
  let (header, c) ← (← c.advance).indicators
  if !endsWord c.peek then refuse .badBlockScalar
  else .ok (header, ← c.finishLine .badBlockScalar)

/-- The line ends of blank lines, and the column that the deepest of them or the line after them
reaches. -/
def leadingLines (c : Cursor) (deepest : Nat) : Nat → Except Fault (List Char × Nat × Cursor)
  | 0 => .ok ([], deepest, c)
  | fuel + 1 => do
    let c ← c.skipSpaces
    let deepest := max deepest c.column
    match ← c.lineEnd? with
    | none => .ok ([], deepest, c)
    | some (ch, c) =>
      let (others, deepest, c) ← c.leadingLines deepest fuel
      .ok (ch :: others, deepest, c)

/-- The cursor after spaces up to a column. -/
def skipIndent (c : Cursor) (indent : Nat) : Except Fault Cursor :=
  c.forward ((c.word (· == ' ')).take (indent - c.column)).length

/-- The line ends of blank lines that are not indented beyond a column. -/
def blockBreaks (c : Cursor) (indent : Nat) : Nat → Except Fault (List Char × Cursor)
  | 0 => .ok ([], c)
  | fuel + 1 => do
    let c ← c.skipIndent indent
    match ← c.lineEnd? with
    | none => .ok ([], c)
    | some (ch, c) =>
      let (others, c) ← c.blockBreaks indent fuel
      .ok (ch :: others, c)

/-- Whether a line of the scalar starts here. -/
def inBlock (c : Cursor) (indent : Nat) : Bool :=
  c.column == indent && c.peek.isSome

/-- The rest of a line, its line end if it has one, and the cursor after them. -/
def wholeLine (c : Cursor) : Except Fault (List Char × List Char × Cursor) := do
  let line := c.word fun ch => !isLineEnd ch
  let c ← c.forward line.length
  match ← c.lineEnd? with
  | some (ch, c) => .ok (line, [ch], c)
  | none => .ok (line, [], c)

/-- The lines from here on, after the line ends of blank lines. -/
def blockLines (c : Cursor) (folded : Bool) (chomping : Chomping) (indent : Nat)
    (breaks : List Char) : Nat → Except Fault (List Char × Cursor)
  | 0 => .ok (chomping.tail [] breaks, c)
  | fuel + 1 =>
    if !c.inBlock indent then .ok (chomping.tail [] breaks, c)
    else do
      let (line, lineEnd, next) ← c.wholeLine
      let (others, next) ← next.blockBreaks indent (next.rest.length + 1)
      if next.inBlock indent then
        let joint :=
          if folded && lineEnd == ['\n'] && !isOneOf " \t" c.peek && !isOneOf " \t" next.peek then
            if others.isEmpty then [' '] else []
          else lineEnd
        let (more, after) ← next.blockLines folded chomping indent others fuel
        .ok (breaks ++ line ++ joint ++ more, after)
      else .ok (breaks ++ line ++ chomping.tail lineEnd others, next)

/-- The scalar from its indicator on, inside a collection of the given indentation. -/
def blockScalar (c : Cursor) (folded : Bool) (surrounding : Int) :
    Except Fault (List Char × Cursor) := do
  let (header, c) ← c.blockHeader
  let least := max 1 (surrounding + 1).toNat
  let fuel := c.rest.length + 1
  match header.increment with
  | none =>
    let (breaks, deepest, c) ← c.leadingLines 0 fuel
    c.blockLines folded header.chomping (max least deepest) breaks fuel
  | some n =>
    let indent := least + n - 1
    let (breaks, c) ← c.blockBreaks indent fuel
    c.blockLines folded header.chomping indent breaks fuel

end Cursor

end JenkinsAdmission.Yaml
