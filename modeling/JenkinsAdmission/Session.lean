import JenkinsAdmission.Gate.Basic

/-!
# Sessions

A store and a gate in use over time: secrets come and go, faults strike and pass, the resource and
the settings change, and in between somebody asks for a secret or a verdict.

The data of a secret can be written into, and whoever holds it sees what others write. So data lies
in a `Heap` and is held by its **address**. A store is opened with a table of addresses that belongs
to somebody else, and two things keep the two apart: the store holds copies of the data in that
table, and what a lookup hands out is a copy again.

`Session.answer` says what a step answers, from the state before the step, and `Session.next` what
it leaves behind.
-/

namespace JenkinsAdmission

/-! ## Data with addresses -/

/-- Where data lies. -/
abbrev Address := Nat

/-- Data of secrets at addresses. -/
structure Heap where
  /-- the data, by address -/
  cells : List SecretData

namespace Heap

/-- The number of addresses in use. -/
def size (h : Heap) : Nat := h.cells.length

/-- The data at an address. -/
def read (h : Heap) (a : Address) : SecretData :=
  h.cells[a]?.getD []

/-- A new address with data. -/
def alloc (h : Heap) (d : SecretData) : Address × Heap :=
  (h.size, ⟨h.cells ++ [d]⟩)

/-- A new address with a copy of the data at another one. -/
def copy (h : Heap) (a : Address) : Address × Heap :=
  h.alloc (h.read a)

/-- The heap after a value was written into the data at an address. -/
def write (h : Heap) (a : Address) (key : Text) (value : Bytes) : Heap :=
  ⟨h.cells.modify a fun d => d.insert key value⟩

end Heap

/-- Secrets whose data is held by its address. -/
abbrev References := Table Coordinate Address

namespace References

/-- The secrets as they are in a heap. -/
def secrets (r : References) (h : Heap) : Secrets :=
  r.map fun e => (e.1, h.read e.2)

/-- Secrets with copies of their data, and the heap with these. -/
def copies (r : References) (h : Heap) : References × Heap :=
  match r with
  | [] => ([], h)
  | (c, a) :: rest =>
    let (b, h) := h.copy a
    let (others, h) := copies rest h
    ((c, b) :: others, h)

end References

/-- A table of secrets in a heap. Secrets may share their data. -/
structure SecretTable where
  /-- the heap -/
  heap : Heap
  /-- the secrets -/
  references : References
  /-- the data of every secret lies in the heap -/
  isInside : ∀ e ∈ references, e.2 < heap.size

/-! ## States and steps -/

/-- A store and a gate at one time. -/
structure Session where
  /-- the data that is around -/
  heap : Heap
  /-- the table that the store was opened with -/
  source : References
  /-- the secrets in the store -/
  held : References
  /-- the faults in front of the store -/
  faults : Table Coordinate Text
  /-- the name of the operator in the environment -/
  environment : Option Text
  /-- the resource that is checked -/
  resource : Option Jenkins
  /-- the settings of the gate -/
  gate : Gate

/-- A step of a session. -/
inductive Step
  /-- put a secret into the store -/
  | put (secret : Coordinate) (data : SecretData)
  /-- take a secret out of the store, if it is there -/
  | delete (secret : Coordinate)
  /-- let lookups of a secret fail -/
  | fault (secret : Coordinate) (words : Text)
  /-- let lookups of a secret succeed again -/
  | clearFault (secret : Coordinate)
  /-- look a secret up -/
  | get (secret : Coordinate)
  /-- look a secret up and write into the copy -/
  | changeCopy (secret : Coordinate) (key : Text) (value : Bytes)
  /-- write into the table that the store was opened with -/
  | changeSource (secret : Coordinate) (key : Text) (value : Bytes)
  /-- change the name of the operator in the environment -/
  | setEnvironment (name : Option Text)
  /-- declare another resource -/
  | declare (resource : Jenkins)
  /-- change the settings of the gate -/
  | configure (fullDiagnostics : Option Bool) (operatorName : Option (Option Text))
  /-- ask for the verdict -/
  | validate
  /-- ask whether the seed jobs are sound -/
  | checkSeedJobs
  /-- ask whether the backup is sound -/
  | checkBackup
  /-- ask what the gate is called in a listing -/
  | describe

/-- The answer to a step. -/
inductive Answer
  /-- the step is done -/
  | done
  /-- the data of a secret -/
  | data (d : SecretData)
  /-- a verdict -/
  | verdict (ok : Bool)
  /-- a text -/
  | text (t : Text)
  deriving DecidableEq

namespace Session

/-- A session that was just opened: its store has copies of the secrets of a table. -/
def opened (table : SecretTable) (faults : Table Coordinate Text) (environment : Option Text)
    (resource : Option Jenkins) (gate : Gate) : Session :=
  let (held, heap) := table.references.copies table.heap
  ⟨heap, table.references, held, faults, environment, resource, gate⟩

/-- The secrets in the store with their data. -/
def secrets (s : Session) : Secrets := s.held.secrets s.heap

/-- The store with its faults. -/
def store (s : Session) : Store :=
  s.secrets.store.withFaults s.faults

section

variable [Platform]

/-- A check of the resource, which has to be there. -/
def check (s : Session) (f : Jenkins → Run LookupFault Bool) : Run LookupFault Answer :=
  match s.resource with
  | none => Run.fail (.broken .noResource)
  | some j => Answer.verdict <$> f j

/-- What a step answers. -/
def answer (s : Session) : Step → Run LookupFault Answer
  | .get c => Answer.data <$> s.store.lookUp c
  | .changeCopy c _ _ => (fun _ => Answer.done) <$> s.store.lookUp c
  | .validate => s.check (s.gate.validate s.environment s.store)
  | .checkSeedJobs => s.check fun j => j.checkSeedJobs s.store
  | .checkBackup => s.check fun j => j.checkBackup s.store (s.gate.operator s.environment)
  | .describe => pure (.text (s.gate.description s.secrets.description))
  | _ => pure .done

end

/-! ## What steps leave behind -/

/-- The copy that a lookup hands out, if there is a secret and no fault in front of it, and the
session after that. -/
def handOut (s : Session) (c : Coordinate) : Option Address × Session :=
  match s.faults.get? c, s.held.get? c with
  | none, some a =>
    let (copy, heap) := s.heap.copy a
    (some copy, { s with heap := heap })
  | _, _ => (none, s)

/-- The session after lookups. -/
def afterLookups (s : Session) (cs : List Coordinate) : Session :=
  cs.foldl (fun s c => (s.handOut c).2) s

/-- The session after a lookup and a value written into what it handed out. -/
def changeCopy (s : Session) (c : Coordinate) (key : Text) (value : Bytes) : Session :=
  match s.handOut c with
  | (none, s) => s
  | (some copy, s) => { s with heap := s.heap.write copy key value }

/-- The session after a value was written into the table that its store was opened with, perhaps
for a secret that was not there. -/
def changeSource (s : Session) (c : Coordinate) (key : Text) (value : Bytes) : Session :=
  match s.source.get? c with
  | some a => { s with heap := s.heap.write a key value }
  | none =>
    let (a, heap) := s.heap.alloc [(key, value)]
    { s with heap := heap, source := s.source.insert c a }

/-- The session after a secret was put into its store. -/
def put (s : Session) (c : Coordinate) (data : SecretData) : Session :=
  let (a, heap) := s.heap.alloc data
  { s with heap := heap, held := s.held.insert c a }

variable [Platform]

/-- What a step leaves behind. -/
def next (s : Session) : Step → Session
  | .put c data => s.put c data
  | .delete c => { s with held := s.held.erase c }
  | .fault c words => { s with faults := s.faults.insert c words }
  | .clearFault c => { s with faults := s.faults.erase c }
  | .changeCopy c key value => s.changeCopy c key value
  | .changeSource c key value => s.changeSource c key value
  | .setEnvironment name => { s with environment := name }
  | .declare j => { s with resource := some j }
  | .configure full operator =>
    { s with gate := ⟨full.getD s.gate.fullDiagnostics, operator.getD s.gate.operatorName⟩ }
  -- whoever asks gets a copy of all that is looked up on the way
  | step => s.afterLookups (s.answer step).trace.lookups

/-- The answers to steps in order. -/
def answers (s : Session) : List Step → List (Run LookupFault Answer)
  | [] => []
  | step :: rest => s.answer step :: (s.next step).answers rest

end Session

end JenkinsAdmission
