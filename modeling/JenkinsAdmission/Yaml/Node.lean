import JenkinsAdmission.Table
import JenkinsAdmission.Yaml.Resolution
import JenkinsAdmission.Yaml.Token

/-!
# Nodes

A document is a graph of **nodes**: scalars, sequences and mappings, each with a tag. An alias is
another edge to the node of its anchor, which may even be a node that is still being read. So nodes
live in a table and refer to each other by place.

The reader follows the grammar of the format, one function for each construct. Every call that does
not use up a token is followed by one that does, so the number of tokens bounds the depth of calls.
-/

namespace JenkinsAdmission.Yaml

/-- What a node is apart from its tag. -/
inductive Shape
  /-- a text -/
  | scalar (text : Text)
  /-- nodes in order -/
  | sequence (items : List Nat)
  /-- pairs of nodes in order -/
  | mapping (entries : List (Nat × Nat))

/-- A node. -/
structure Node where
  /-- the full tag -/
  tag : String
  /-- what is tagged -/
  shape : Shape

/-- The state of the reader of nodes. -/
structure Composer where
  /-- the tokens that are left -/
  input : Tokens
  /-- the nodes of the document so far -/
  nodes : Array Node
  /-- the anchors of the document so far -/
  anchors : Table String Nat
  /-- the meaning of tag handles in the document -/
  handles : Table String String
  /-- the number of collections that are still being read -/
  depth : Nat

/-- A step of the reader. -/
abbrev Compose := StateT Composer (Except Fault)

namespace Compose

/-- Give up because a rule is broken. -/
def refuse {α : Type} (rule : Malformation) : Compose α := throw (.malformed rule)

/-- The next token. -/
def peek : Compose Token := do
  let input := (← get).input
  match input.tokens, input.fault with
  | t :: _, _ => pure t
  | [], some fault => throw fault
  | [], none => refuse .unexpectedToken

/-- Use the next token up. -/
def drop : Compose Unit :=
  modify fun s => { s with input := { s.input with tokens := s.input.tokens.tail } }

/-- Use the next token up if it is the given one. Whether it is. -/
def accept (t : Token) : Compose Bool := do
  if (← peek) = t then
    drop
    pure true
  else pure false

/-- Use the next token up, which has to be the given one. -/
def expect (t : Token) : Compose Unit := do
  if !(← accept t) then refuse .unexpectedToken

/-- Whether the next token is one of the given. -/
def follows (ts : List Token) : Compose Bool := do
  pure (ts.contains (← peek))

/-! ## Places -/

/-- A new node. -/
def add (n : Node) : Compose Nat := do
  let place := (← get).nodes.size
  modify fun s => { s with nodes := s.nodes.push n }
  pure place

/-- Name a node. -/
def name (anchor : Option String) (place : Nat) : Compose Unit :=
  match anchor with
  | some a => modify fun s => { s with anchors := s.anchors.insert a place }
  | none => pure ()

/-- An empty scalar without properties, which is a null. -/
def empty : Compose Nat := add ⟨Tag.null, .scalar []⟩

/-- A part that is left out before one of the given tokens. -/
def orEmpty (before : List Token) (part : Compose Nat) : Compose Nat := do
  if ← follows before then empty else part

/-! ## Properties -/

/-- An anchor, if there is one. -/
def anchor? : Compose (Option String) := do
  match ← peek with
  | .anchor a =>
    drop
    pure (some a)
  | _ => pure none

/-- A tag as written, if there is one. -/
def tagName? : Compose (Option TagName) := do
  match ← peek with
  | .tag t =>
    drop
    pure (some t)
  | _ => pure none

/-- An anchor and a tag in either order. -/
def properties : Compose (Option String × Option TagName) := do
  match ← anchor? with
  | some a => pure (some a, ← tagName?)
  | none =>
    match ← tagName? with
    | some t => pure (← anchor?, some t)
    | none => pure (none, none)

/-- The full tag of a tag as written. -/
def fullTag (t : TagName) : Compose String := do
  match t.handle with
  | none => pure t.suffix
  | some h =>
    match (← get).handles.get? h with
    | some start => pure (start ++ t.suffix)
    | none => refuse .badTag

/-- The tag of a collection. -/
def collectionTag (written : Option String) (default : String) : String :=
  match written with
  | none => default
  | some t => if t = Tag.nonSpecific then default else t

/-- The tag of a scalar. A plain one without a tag and every one with the tag that leaves it open
are resolved by their text. -/
def scalarTag (written : Option String) (text : Text) (plain : Bool) : String :=
  match written with
  | none => if plain then Tag.resolve text else Tag.str
  | some t => if t = Tag.nonSpecific then Tag.resolve text else t

/-- How deep collections may be nested. -/
def maxDepth : Nat := 485

/-- A new collection, named before its parts are read, so that they can refer to it. -/
def openCollection (anchor : Option String) (tag : String) : Compose Nat := do
  if maxDepth ≤ (← get).depth then throw (.broken .tooDeep)
  else
    modify fun s => { s with depth := s.depth + 1 }
    let place ← add ⟨tag, .sequence []⟩
    name anchor place
    pure place

/-- A collection after its parts were read. -/
def closeCollection (place : Nat) (shape : Shape) : Compose Nat := do
  modify fun s =>
    { s with
      nodes := s.nodes.modify place fun n => { n with shape := shape }
      depth := s.depth - 1 }
  pure place

/-- An anchor that has no node yet, or none at all. -/
def expectFresh (anchor : Option String) : Compose Unit := do
  if (anchor.bind (← get).anchors.get?).isSome then refuse .badAnchor

/-- What stands in front of an item inside brackets, which is nothing for the first one. -/
def separator (first : Bool) : Compose Unit :=
  if first then pure () else expect .flowEntry

/-! ## Nodes -/

mutual

/-- A node. Outside brackets it may be a block collection, and as part of a mapping also a sequence
whose dashes are not indented. -/
def node (block indentless : Bool) : Nat → Compose Nat
  | 0 => refuse .unexpectedToken
  | fuel + 1 => do
    if let .alias a ← peek then
      drop
      match (← get).anchors.get? a with
      | some place => pure place
      | none => refuse .badAnchor
    else
      let (anchor, written) ← properties
      let tag ← written.mapM fullTag
      let next ← peek
      expectFresh anchor
      if indentless && next = .blockEntry then
        let place ← openCollection anchor (collectionTag tag Tag.seq)
        closeCollection place (.sequence (← indentlessItems fuel))
      else
        match next with
        | .scalar text plain =>
          drop
          let place ← add ⟨scalarTag tag text plain, .scalar text⟩
          name anchor place
          pure place
        | .flowSequenceStart =>
          drop
          let place ← openCollection anchor (collectionTag tag Tag.seq)
          closeCollection place (.sequence (← flowItems true fuel))
        | .flowMappingStart =>
          drop
          let place ← openCollection anchor (collectionTag tag Tag.map)
          closeCollection place (.mapping (← flowEntries true fuel))
        | .blockSequenceStart =>
          if !block then refuse .unexpectedToken
          else
            drop
            let place ← openCollection anchor (collectionTag tag Tag.seq)
            closeCollection place (.sequence (← blockItems fuel))
        | .blockMappingStart =>
          if !block then refuse .unexpectedToken
          else
            drop
            let place ← openCollection anchor (collectionTag tag Tag.map)
            closeCollection place (.mapping (← blockEntries fuel))
        | _ =>
          if anchor.isNone && tag.isNone then refuse .unexpectedToken
          else
            let place ← add ⟨scalarTag tag [] true, .scalar []⟩
            name anchor place
            pure place

/-- The items of a block sequence through its end. -/
def blockItems : Nat → Compose (List Nat)
  | 0 => refuse .unexpectedToken
  | fuel + 1 => do
    if ← accept .blockEntry then
      let item ← orEmpty [.blockEntry, .blockEnd] (node true false fuel)
      pure (item :: (← blockItems fuel))
    else
      expect .blockEnd
      pure []

/-- The items of a sequence whose dashes are not indented. -/
def indentlessItems : Nat → Compose (List Nat)
  | 0 => refuse .unexpectedToken
  | fuel + 1 => do
    if ← accept .blockEntry then
      let item ← orEmpty [.blockEntry, .key, .value, .blockEnd] (node true false fuel)
      pure (item :: (← indentlessItems fuel))
    else pure []

/-- The entries of a block mapping through its end. -/
def blockEntries : Nat → Compose (List (Nat × Nat))
  | 0 => refuse .unexpectedToken
  | fuel + 1 => do
    if ← accept .key then
      let key ← orEmpty [.key, .value, .blockEnd] (node true true fuel)
      let value ← blockValue fuel
      pure ((key, value) :: (← blockEntries fuel))
    else
      expect .blockEnd
      pure []

/-- The value of an entry of a block mapping, which may be left out. -/
def blockValue : Nat → Compose Nat
  | 0 => refuse .unexpectedToken
  | fuel + 1 => do
    if ← accept .value then
      orEmpty [.key, .value, .blockEnd] (node true true fuel)
    else empty

/-- The items of a flow sequence through its closing bracket. An item that starts like an entry is a
mapping of one entry. -/
def flowItems (first : Bool) : Nat → Compose (List Nat)
  | 0 => refuse .unexpectedToken
  | fuel + 1 => do
    if ← accept .flowSequenceEnd then pure []
    else
      separator first
      if ← accept .key then
        let place ← openCollection none Tag.map
        let key ← flowPart [.value, .flowEntry, .flowSequenceEnd] fuel
        let value ← flowValue [.flowEntry, .flowSequenceEnd] fuel
        let _ ← closeCollection place (.mapping [(key, value)])
        pure (place :: (← flowItems false fuel))
      else if ← accept .flowSequenceEnd then pure []
      else
        let item ← node false false fuel
        pure (item :: (← flowItems false fuel))

/-- The entries of a flow mapping through its closing brace. A lone node is a key without a
value. -/
def flowEntries (first : Bool) : Nat → Compose (List (Nat × Nat))
  | 0 => refuse .unexpectedToken
  | fuel + 1 => do
    if ← accept .flowMappingEnd then pure []
    else
      separator first
      if ← accept .key then
        let key ← flowPart [.value, .flowEntry, .flowMappingEnd] fuel
        let value ← flowValue [.flowEntry, .flowMappingEnd] fuel
        pure ((key, value) :: (← flowEntries false fuel))
      else if ← accept .flowMappingEnd then pure []
      else
        let key ← node false false fuel
        let value ← empty
        pure ((key, value) :: (← flowEntries false fuel))

/-- A node inside brackets, which is left out before one of the given tokens. -/
def flowPart (before : List Token) : Nat → Compose Nat
  | 0 => refuse .unexpectedToken
  | fuel + 1 => orEmpty before (node false false fuel)

/-- The value of an entry inside brackets, which may be left out. -/
def flowValue (before : List Token) : Nat → Compose Nat
  | 0 => refuse .unexpectedToken
  | fuel + 1 => do
    if ← accept .value then flowPart before fuel else empty

end

/-! ## Documents -/

/-- The handles that every document knows. -/
def standardHandles : Table String String := [("!", "!"), ("!!", "tag:yaml.org,2002:")]

/-- The directives in front of a document. -/
def directives (versioned : Bool) (handles : Table String String) :
    Nat → Compose (Table String String)
  | 0 => refuse .badDirective
  | fuel + 1 => do
    match ← peek with
    | .directive d =>
      drop
      match d with
      | .version major _ =>
        if versioned || major != 1 then refuse .badDirective else directives true handles fuel
      | .handle name start =>
        if (handles.get? name).isSome then refuse .badDirective
        else directives versioned (handles.insert name start) fuel
      | .reserved => directives versioned handles fuel
    | _ =>
      pure (standardHandles.foldl
        (fun hs e => if (hs.get? e.1).isSome then hs else hs.insert e.1 e.2) handles)

/-- A number that bounds the depth of calls. -/
def budget : Compose Nat := do
  pure (4 * (← get).input.tokens.length + 8)

/-- Forget the nodes of the last document. -/
def renew (handles : Table String String) : Compose Unit :=
  modify fun s => { s with nodes := #[], anchors := [], handles := handles, depth := 0 }

/-- The root of a document that starts without a marker, through the end of the document. -/
def bareDocument : Compose Nat := do
  renew standardHandles
  let root ← node true false (← budget)
  let _ ← accept .documentEnd
  pure root

/-- Pass the markers of documents' ends. -/
def skipEnds : Nat → Compose Unit
  | 0 => pure ()
  | fuel + 1 => do
    if ← accept .documentEnd then skipEnds fuel

/-- Whether a token cannot start the root of a document. -/
def endsDocument : Token → Bool
  | .directive _ | .documentStart | .documentEnd | .streamEnd => true
  | _ => false

/-- The root of a document after its marker, which may be left out. -/
def root (fuel : Nat) : Compose Nat := do
  if endsDocument (← peek) then empty else node true false fuel

/-- The root of a document that starts with a marker, through the end of the document, or nothing at
the end of the stream. -/
def markedDocument? : Compose (Option Nat) := do
  let fuel ← budget
  skipEnds fuel
  if (← peek) = .streamEnd then pure none
  else
    renew (← directives false [] fuel)
    expect .documentStart
    let root ← root fuel
    let _ ← accept .documentEnd
    pure (some root)

/-- The root of the first document. -/
def firstDocument? : Compose (Option Nat) := do
  match ← peek with
  | .directive _ | .documentStart | .streamEnd => markedDocument?
  | _ => pure (some (← bareDocument))

end Compose

end JenkinsAdmission.Yaml
