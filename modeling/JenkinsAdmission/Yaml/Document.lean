import JenkinsAdmission.Yaml.Atoms
import JenkinsAdmission.Yaml.Lexer
import JenkinsAdmission.Yaml.Node

/-!
# Documents

From the nodes of a document to its value. A node becomes the content at the same place, so the
value shares what the nodes share.

Nodes are **visited** in order of breadth: a scalar is built when it is visited, a collection is
put on a waiting list and its parts are visited when its turn comes. The order decides which of two
faults counts.

Before the entries of a mapping are visited, its **merge keys** are carried out: each is replaced,
in front of the other entries, by the entries of the mapping or mappings it refers to. An entry
that comes later has precedence, so a mapping's own entries override what is merged into it.
-/

namespace JenkinsAdmission.Yaml

/-- What a tag makes of a node. -/
inductive Repertoire
  /-- null -/
  | null
  /-- an atom, from the place and the text of the node -/
  | atom (build : Place → Text → Except Fault Atom)
  /-- a day or a time, which is not taken from a default value -/
  | timestamp
  /-- a list -/
  | list
  /-- a mapping -/
  | mapping
  /-- a set -/
  | set
  /-- a list of pairs -/
  | pairs

/-- What a tag makes of a node, if it is known. -/
def Repertoire.ofTag? (tag : String) : Option Repertoire :=
  [(Tag.null, Repertoire.null), (Tag.bool, .atom fun _ => boolAtom),
    (Tag.int, .atom fun _ => integerAtom), (Tag.float, .atom floatAtom),
    (Tag.binary, .atom fun _ => bytesAtom), (Tag.timestamp, .timestamp),
    (Tag.str, .atom fun _ t => .ok (.text t)), (Tag.seq, .list), (Tag.map, .mapping),
    (Tag.set, .set), (Tag.omap, .pairs), (Tag.pairs, .pairs)].lookup tag

/-- The state of the builder of values. -/
structure Builder where
  /-- the nodes, with the merge keys carried out so far -/
  nodes : Array Node
  /-- the contents of the nodes visited so far -/
  contents : Array (Option Content)
  /-- the collections visited so far -/
  waiting : Array Nat

/-- A step of the builder. -/
abbrev Build := StateT Builder (Except Fault)

namespace Build

/-- Give up because a rule is broken. -/
def refuse {α : Type} (rule : Malformation) : Build α := throw (.malformed rule)

/-- The node at a place. -/
def node (place : Nat) : Build Node := do
  pure ((← get).nodes[place]?.getD ⟨Tag.null, .scalar []⟩)

/-- The entries of a node that has to be a mapping. -/
def entriesOf (place : Nat) (rule : Malformation) : Build (List (Nat × Nat)) := do
  match (← node place).shape with
  | .mapping entries => pure entries
  | _ => refuse rule

/-- The items of a node that has to be a sequence. -/
def itemsOf (place : Nat) : Build (List Nat) := do
  match (← node place).shape with
  | .sequence items => pure items
  | _ => refuse .badNode

/-- Whether the node at a place has a tag. -/
def hasTag (tag : String) (place : Nat) : Build Bool := do
  pure ((← node place).tag == tag)

/-- The first entry whose key has a tag. -/
def firstTagged (tag : String) : List (Nat × Nat) → Build (Option (Nat × Nat))
  | [] => pure none
  | e :: rest => do
    if ← hasTag tag e.1 then pure (some e) else firstTagged tag rest

/-- The longest way from a node to its text. -/
def maxDefaults : Nat := 980

/-- The text of a node: its own, or that of the default value of a mapping. A mapping may be its own
default value, and then there is no text at the end of the way. -/
def textOf (place : Nat) : Nat → Build Text
  | 0 => throw (.broken .tooDeep)
  | fuel + 1 => do
    match (← node place).shape with
    | .scalar text => pure text
    | .sequence _ => refuse .badNode
    | .mapping entries =>
      match ← firstTagged Tag.value entries with
      | some (_, value) => textOf value fuel
      | none => refuse .badNode

/-! ## Visits -/

/-- Set the content of a place. -/
def setContent (place : Nat) (c : Content) : Build Unit :=
  modify fun s => { s with contents := s.contents.set! place (some c) }

/-- Put a collection on the waiting list. -/
def await (place : Nat) (c : Content) : Build Unit := do
  setContent place c
  modify fun s => { s with waiting := s.waiting.push place }

/-- A day or a time. A mapping with a default value has a text, but not one that is looked at. -/
def timestampOf (place : Nat) : Build Atom := do
  let text ← textOf place maxDefaults
  match (← node place).shape with
  | .scalar _ => timestampAtom text
  | _ => throw (.broken .timestampMapping)

/-- Build the node at a place, or put it on the waiting list. -/
def visit (place : Nat) : Build Unit := do
  if ((← get).contents[place]?.getD none).isSome then pure ()
  else
    match Repertoire.ofTag? (← node place).tag with
    | none => refuse .badNode
    | some .null =>
      let _ ← textOf place maxDefaults
      setContent place (.atom .null)
    | some (.atom build) =>
      let text ← textOf place maxDefaults
      setContent place (.atom (← build place text))
    | some .timestamp => setContent place (.atom (← timestampOf place))
    | some .list => await place (.list [])
    | some .mapping => await place (.mapping [])
    | some .set => await place (.set [])
    | some .pairs => await place (.pairs [])

/-- The atom at a place that was visited as a key. -/
def keyAt (place : Nat) : Build Atom := do
  match (← get).contents[place]?.getD none with
  | some (.atom a) => pure a
  | _ => refuse .badKey

/-! ## Merge keys -/

/-- Replace the entries of a mapping. -/
def setEntries (place : Nat) (entries : List (Nat × Nat)) : Build Unit :=
  modify fun s =>
    { s with nodes := s.nodes.modify place fun n => { n with shape := .mapping entries } }

/-- Make the keys that stand for a default value plain strings. -/
def settleKeys (entries : List (Nat × Nat)) : Build Unit :=
  entries.forM fun e => do
    if ← hasTag Tag.value e.1 then
      modify fun s => { s with nodes := s.nodes.modify e.1 fun n => { n with tag := Tag.str } }

/-- Whether the node at a place is a mapping. -/
def isMapping (place : Nat) : Build Bool := do
  match (← node place).shape with
  | .mapping _ => pure true
  | _ => pure false

/-- Carry out the merge keys of the mapping at a place, after `merged` entries from earlier ones. A
merge key is taken away before what it refers to is looked at, so the number of merge keys bounds
the depth of calls. -/
def mergeInto (place : Nat) (merged : List (Nat × Nat)) : Nat → Build Unit
  | 0 => pure ()
  | fuel + 1 => do
    let entries ← entriesOf place .badMerge
    match ← firstTagged Tag.merge entries with
    | none =>
      settleKeys entries
      setEntries place (merged ++ entries)
    | some (key, value) =>
      setEntries place (entries.erase (key, value))
      match (← node value).shape with
      | .mapping _ =>
        mergeInto value [] fuel
        let more ← entriesOf value .badMerge
        mergeInto place (merged ++ more) fuel
      | .sequence items =>
        let groups ← items.mapM fun item => do
          if ← isMapping item then
            mergeInto item [] fuel
            entriesOf item .badMerge
          else refuse .badMerge
        mergeInto place (merged ++ groups.reverse.flatten) fuel
      | .scalar _ => refuse .badMerge

/-- The number of merge keys in a document. -/
def mergeKeys : Build Nat := do
  let nodes := (← get).nodes
  let count (n : Node) : Nat :=
    match n.shape with
    | .mapping entries => entries.length
    | _ => 0
  pure (nodes.foldl (fun n m => n + count m) 0)

/-! ## Collections -/

/-- Entries with another one, which takes the place of an earlier one with the same key. -/
def addEntry (entries : List (Atom × Place)) (key : Atom) (place : Place) : List (Atom × Place) :=
  match entries with
  | [] => [(key, place)]
  | e :: rest => if e.1.same key then (e.1, place) :: rest else e :: addEntry rest key place

/-- The entries of a mapping, visited. -/
def mappingEntries (place : Nat) : Build (List (Atom × Place)) := do
  let _ ← entriesOf place .badNode
  mergeInto place [] ((← mergeKeys) + 1)
  (← entriesOf place .badNode).foldlM (fun entries e => do
    visit e.1
    let key ← keyAt e.1
    visit e.2
    pure (addEntry entries key e.2)) []

/-- The pairs of a sequence of mappings of one entry, visited. -/
def pairItems (place : Nat) : Build (List (Place × Place)) := do
  (← itemsOf place).mapM fun item => do
    match ← entriesOf item .badNode with
    | [(key, value)] =>
      visit key
      visit value
      pure (key, value)
    | _ => refuse .badNode

/-- Build the collection at a place from the list. -/
def complete (place : Nat) : Build Unit := do
  match Repertoire.ofTag? (← node place).tag with
  | some .list =>
    let items ← itemsOf place
    items.forM visit
    setContent place (.list items)
  | some .mapping => setContent place (.mapping (← mappingEntries place))
  | some .set => setContent place (.set ((← mappingEntries place).map (·.1)))
  | some .pairs => setContent place (.pairs (← pairItems place))
  | _ => pure ()

/-- Build the collections on the waiting list from the `i`-th on. Each place gets there once. -/
def completeFrom (i : Nat) : Nat → Build Unit
  | 0 => pure ()
  | fuel + 1 => do
    match (← get).waiting[i]? with
    | none => pure ()
    | some place =>
      complete place
      completeFrom (i + 1) fuel

/-- Build the document whose root is at a place. -/
def document (root : Nat) : Build Unit := do
  visit root
  completeFrom 0 ((← get).nodes.size + 1)

end Build

/-- The value of a document. -/
def valueOf (nodes : Array Node) (root : Nat) : Except Fault Value := do
  let start : Builder := ⟨nodes, Array.replicate nodes.size none, #[]⟩
  let (_, built) ← (Build.document root).run start
  .ok ⟨built.contents.map fun c => c.getD (.atom .null), root⟩

/-! ## Streams -/

/-- The values of the documents from here on, each built before the next is read. -/
def valuesFrom (s : Composer) (next : Compose (Option Nat)) : Nat → Except Fault (List Value)
  | 0 => .ok []
  | fuel + 1 => do
    match ← next.run s with
    | (none, _) => .ok []
    | (some root, s) =>
      let value ← valueOf s.nodes root
      let others ← valuesFrom s Compose.markedDocument? fuel
      .ok (value :: others)

/-- The values of the documents of a stream of tokens. Every document but the first uses up a
token. -/
def Tokens.values (t : Tokens) : Except Fault (List Value) :=
  valuesFrom ⟨t, #[], [], [], 0⟩ Compose.firstDocument? (t.tokens.length + 2)

/-- The values of the documents in a file. -/
def read (file : Bytes) : Except Fault (List Value) :=
  (tokenize (.ofBytes file)).values

end JenkinsAdmission.Yaml
