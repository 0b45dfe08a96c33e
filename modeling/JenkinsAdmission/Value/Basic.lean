import JenkinsAdmission.Number.Binary64
import JenkinsAdmission.Unicode.Utf8
import JenkinsAdmission.Value.Calendar

/-!
# Values

What a document holds. A document is a **graph**: an alias makes one container the child of
several, and may even put a container inside itself. So a `Value` is a place in a table of contents,
and `Value.view` shows what stands there, with values for children. All the rest of the library
looks at values through views.

* An `Atom` is a value without parts. Mapping keys are atoms, and `Atom.same` decides when two of
  them are one key: numbers are compared by value, and `true` and `false` count as one and zero.
* `Value.get?` looks a text key up in a mapping.
* `Value.isFalsy` holds of null, false, zeros and everything empty.
* A `Tree` is a value without sharing, such as a JSON document; `Tree.toValue` lays it out.
-/

namespace JenkinsAdmission

/-- A value without parts. -/
inductive Atom
  /-- the null value -/
  | null
  /-- a truth value -/
  | bool (b : Bool)
  /-- an integer of any size -/
  | int (i : Int)
  /-- a floating-point number -/
  | float (x : Binary64)
  /-- a text -/
  | text (t : Text)
  /-- a day -/
  | date (d : Date)
  /-- a time on a day -/
  | dateTime (t : DateTime)
  /-- a sequence of bytes -/
  | bytes (b : Bytes)
  deriving DecidableEq

namespace Atom

/-- The integer that an atom is equal to as a number. -/
def integer? : Atom → Option Int
  | bool b => some (if b then 1 else 0)
  | int i => some i
  | float x => x.integer?
  | _ => none

/-- Whether two atoms are the same mapping key. -/
def same (a b : Atom) : Bool :=
  match a.integer?, b.integer? with
  | some i, some j => i == j
  | none, none =>
    match a, b with
    | dateTime s, dateTime t => s.same t
    | _, _ => a == b
  | _, _ => false

/-- Whether an atom counts as absent. -/
def isFalsy : Atom → Bool
  | null => true
  | bool b => !b
  | int i => i == 0
  | float x => x.isZero
  | text t => t.isEmpty
  | bytes b => b.isEmpty
  | date _ => false
  | dateTime _ => false

end Atom

/-- A place in a table of contents. -/
abbrev Place := Nat

/-- What stands at a place. -/
inductive Content
  /-- an atom -/
  | atom (a : Atom)
  /-- a list -/
  | list (items : List Place)
  /-- a mapping in the order of first insertion, each key once -/
  | mapping (entries : List (Atom × Place))
  /-- a list of pairs -/
  | pairs (items : List (Place × Place))
  /-- a set, each member once, in the order in which the set lists them -/
  | set (members : List Atom)
  deriving DecidableEq

/-- A place in a document. -/
structure Value where
  /-- the contents of the document -/
  contents : Array Content
  /-- the place -/
  place : Place
  deriving DecidableEq

/-- What a value is, one level deep. -/
inductive View
  /-- an atom -/
  | atom (a : Atom)
  /-- a list -/
  | list (items : List Value)
  /-- a mapping in the order of first insertion, each key once -/
  | mapping (entries : List (Atom × Value))
  /-- a list of pairs -/
  | pairs (items : List (Value × Value))
  /-- a set, each member once, in the order in which the set lists them -/
  | set (members : List Atom)

namespace Value

/-- The value at another place of the same document. -/
def atPlace (v : Value) (p : Place) : Value := { v with place := p }

/-- What a value is, one level deep. Outside the table there is only null. -/
def view (v : Value) : View :=
  match v.contents[v.place]? with
  | none => .atom .null
  | some (.atom a) => .atom a
  | some (.list items) => .list (items.map v.atPlace)
  | some (.mapping entries) => .mapping (entries.map fun (k, p) => (k, v.atPlace p))
  | some (.pairs items) => .pairs (items.map fun (p, q) => (v.atPlace p, v.atPlace q))
  | some (.set members) => .set members

/-- The document that consists of one atom. -/
def ofAtom (a : Atom) : Value := ⟨#[.atom a], 0⟩

/-- The atom that a value is. -/
def atom? (v : Value) : Option Atom :=
  match v.view with
  | .atom a => some a
  | _ => none

/-- The text that a value is. -/
def text? (v : Value) : Option Text :=
  match v.view with
  | .atom (.text t) => some t
  | _ => none

/-- The items of a list. Those of a list of pairs are no values on their own. -/
def items? (v : Value) : Option (List (Option Value)) :=
  match v.view with
  | .list items => some (items.map some)
  | .pairs items => some (items.map fun _ => none)
  | _ => none

/-- The entries of a mapping. -/
def entries? (v : Value) : Option (List (Atom × Value)) :=
  match v.view with
  | .mapping entries => some entries
  | _ => none

/-- Whether a value is a mapping. -/
def isMapping (v : Value) : Bool := v.entries?.isSome

/-- Whether a value is null. -/
def isNull (v : Value) : Bool :=
  match v.view with
  | .atom .null => true
  | _ => false

/-- Whether a value counts as absent. -/
def isFalsy (v : Value) : Bool :=
  match v.view with
  | .atom a => a.isFalsy
  | .list items => items.isEmpty
  | .mapping entries => entries.isEmpty
  | .pairs items => items.isEmpty
  | .set members => members.isEmpty

end Value

/-- The value under a text key. -/
def Entries.get? (entries : List (Atom × Value)) (key : Text) : Option Value :=
  (entries.find? fun e => e.1.same (.text key)).map (·.2)

/-- The value under a text key of a mapping. -/
def Value.get? (v : Value) (key : Text) : Option Value :=
  v.entries?.bind fun entries => Entries.get? entries key

/-! ## Values without sharing -/

/-- A value without sharing. -/
inductive Tree
  /-- an atom -/
  | atom (a : Atom)
  /-- a list -/
  | list (items : List Tree)
  /-- a mapping in the order of first insertion, each key once -/
  | mapping (entries : List (Atom × Tree))

namespace Tree

mutual

/-- The place of a tree after its contents were added to a table, and the longer table. -/
def layOut (table : Array Content) : Tree → Place × Array Content
  | atom a => (table.size, table.push (.atom a))
  | list items =>
    let (places, table) := layOutAll table items
    (table.size, table.push (.list places))
  | mapping entries =>
    let (places, table) := layOutEntries table entries
    (table.size, table.push (.mapping places))

/-- The places of several trees. -/
def layOutAll (table : Array Content) : List Tree → List Place × Array Content
  | [] => ([], table)
  | t :: rest =>
    let (place, table) := layOut table t
    let (places, table) := layOutAll table rest
    (place :: places, table)

/-- The places of the values of a mapping. -/
def layOutEntries (table : Array Content) : List (Atom × Tree) → List (Atom × Place) × Array Content
  | [] => ([], table)
  | (k, t) :: rest =>
    let (place, table) := layOut table t
    let (places, table) := layOutEntries table rest
    ((k, place) :: places, table)

end

/-- The value of a tree. -/
def toValue (t : Tree) : Value :=
  let (place, table) := layOut #[] t
  ⟨table, place⟩

end Tree

end JenkinsAdmission
