import JenkinsAdmission.Unicode.Utf8
import JenkinsAdmission.Yaml.Fault

/-!
# The characters of a file

A file is not read at once. Its bytes are taken in **blocks** and decoded block by block; the
characters are asked for in **portions** and looked over portion by portion, when the reader of the
stream needs them. A byte or a character that must not be there fails the portion that comes upon
it, so everything before that portion is still read, and may have a fault of its own. What a file
amounts to is therefore a `Source`: its characters up to the first portion that fails, and why that
one does.

Line ends are made alike as the bytes are decoded.
-/

namespace JenkinsAdmission.Yaml

/-- The characters that can be read, and the fault that stands in the way of any others. -/
structure Source where
  /-- the characters -/
  chars : List Char
  /-- why there are no more of them, unless they end there -/
  fault : Option Fault := none

/-- A text with a line feed for every carriage return, alone or before a line feed. -/
def unifyLineEnds : List Char → List Char
  | '\r' :: '\n' :: rest => '\n' :: unifyLineEnds rest
  | '\r' :: rest => '\n' :: unifyLineEnds rest
  | c :: rest => c :: unifyLineEnds rest
  | [] => []

/-- The characters that a stream may hold: tab, line ends and everything that is no control
character and has a meaning as a character. -/
def isPermitted (c : Char) : Bool :=
  let n := c.toNat
  n == 0x9 || n == 0xA || n == 0xD || n == 0x85
    || (decide (0x20 ≤ n) && decide (n ≤ 0x7E))
    || (decide (0xA0 ≤ n) && decide (n ≤ 0xFFFD))
    || decide (0x10000 ≤ n)

/-! ## Blocks of bytes -/

/-- The characters of a block of bytes, and the bytes that are **held** back at its end: those of a
character that the next block completes, and a carriage return, which a line feed may follow. -/
def decodeBlock (block : Bytes) : Option (List Char × Bytes) :=
  (Utf8.decodeComplete block).map fun (chars, held) =>
    if chars.getLast? = some '\r' then (unifyLineEnds chars.dropLast, 0x0D :: held)
    else (unifyLineEnds chars, held)

/-- A file that is being read. -/
structure Feed where
  /-- the bytes that have not been taken -/
  rest : Bytes
  /-- the bytes that are held back -/
  held : Bytes
  /-- the characters that have been decoded and not been asked for -/
  ready : List Char
  /-- the number of bytes of the last block -/
  taken : Nat
  /-- the number of characters that came of it -/
  given : Nat

namespace Feed

/-- A file before it is read. -/
def start (file : Bytes) : Feed := ⟨file, [], [], 0, 0⟩

/-- The number of bytes that are taken when so many characters are wanted. It is more than the
usual number if the last block had more than two bytes for each character. -/
def blockSize (f : Feed) (wanted : Nat) : Nat :=
  max 8192 (f.taken * wanted / f.given)

/-- The feed after a block. -/
def add (f : Feed) (block rest : Bytes) : Except Fault Feed :=
  match decodeBlock (f.held ++ block) with
  | none => .error (.broken .undecodableBytes)
  | some (chars, held) => .ok ⟨rest, held, chars, block.length, chars.length⟩

/-- The feed after the last block, if anything was held back. -/
def close (f : Feed) : Except Fault (Option Feed) :=
  match Utf8.decode f.held with
  | none => .error (.broken .undecodableBytes)
  | some [] => .ok none
  | some chars => .ok (some ⟨[], [], unifyLineEnds chars, 0, chars.length⟩)

/-- The feed after its next block, or nothing at the end of the file. -/
def refill (f : Feed) (wanted : Nat) : Except Fault (Option Feed) :=
  let (block, rest) := f.rest.splitAt (f.blockSize wanted)
  if block.isEmpty then f.close else (f.add block rest).map some

/-- So many characters, or fewer at the end of the file. Every block has a byte at least, except
for a last one that gives what was held back. -/
def read (f : Feed) (wanted : Nat) : Nat → Except Fault (List Char × Feed)
  | 0 => .ok ([], f)
  | fuel + 1 =>
    let (now, later) := f.ready.splitAt wanted
    let f := { f with ready := later }
    if now.length = wanted then .ok (now, f)
    else do
      match ← f.refill (wanted - now.length) with
      | none => .ok (now, f)
      | some f =>
        let (others, f) ← f.read (wanted - now.length) fuel
        .ok (now ++ others, f)

/-! ## Portions of characters -/

/-- The number of characters that are asked for at once. -/
def portionSize : Nat := 4096

/-- The next portion. -/
def portion (f : Feed) : Except Fault (List Char × Feed) :=
  f.read portionSize (f.rest.length + 3)

/-- Characters, all of which have to be permitted. -/
def lookOver (chars : List Char) : Except Fault Unit :=
  if chars.all isPermitted then .ok () else .error (.malformed .unprintable)

/-- What remains of a file. The one portion that is shorter than the others is the last. -/
def source (f : Feed) : Nat → Source
  | 0 => ⟨[], none⟩
  | fuel + 1 =>
    match (do let (chars, f) ← f.portion; lookOver chars; .ok (chars, f)) with
    | .error fault => ⟨[], some fault⟩
    | .ok (chars, f) =>
      if chars.length < portionSize then ⟨chars, none⟩
      else
        let others := f.source fuel
        { others with chars := chars ++ others.chars }

end Feed

/-- What a file amounts to. The first two portions are asked for before either is looked over. -/
def Source.ofBytes (file : Bytes) : Source :=
  let first : Except Fault (List Char × Feed) := do
    let (chars, f) ← (Feed.start file).portion
    let (more, f) ← f.portion
    Feed.lookOver (chars ++ more)
    .ok (chars ++ more, f)
  match first with
  | .error fault => ⟨[], some fault⟩
  | .ok (chars, f) =>
    let others := f.source (file.length + 1)
    { others with chars := chars ++ others.chars }

end JenkinsAdmission.Yaml
