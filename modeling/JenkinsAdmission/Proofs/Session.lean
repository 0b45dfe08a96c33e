import JenkinsAdmission.BuiltIn
import JenkinsAdmission.Proofs.Table
import JenkinsAdmission.Session

/-!
# The history of a session

A session goes from state to state. Here the states are taken out of it: what a question is answered
with is read off the **history**, the steps before the question, and off the table that the session
was opened with.

* `Step.lastWord` is what the last step with a say in a matter said about it. There are five such
  matters: the fault at a coordinate, the name of the operator in the environment, the resource, and
  the two settings of the gate.
* `Secrets.edited` is a table with the edits of a history carried out: what it puts and deletes, in
  order, and nothing else.
* An `Occasion` is all that a question depends on that is asked once, of a store built for it alone.
* `Session.Separate` is what the two copies are for: whatever is held outside of the store is not
  held by the store. Every step preserves it (`Session.Separate.next`), and under it a step changes
  the secrets of the store only by a put or a delete (`Session.secrets_next`).
* `Session.answers_forget` says that in a session every question is answered as on the occasion that
  its history makes, and that a step which changes none of these matters can be left out without
  another answer being different.
-/

namespace JenkinsAdmission

/-! ## What steps say -/

namespace Step

/-- What a step does to the secrets of a store, if it is a put or a delete. -/
def edit? : Step → Option (Secrets → Secrets)
  | .put c data => some fun t => t.insert c data
  | .delete c => some fun t => t.erase c
  | _ => none

/-- What a step says about the fault at a coordinate. -/
def faultAt? (c : Coordinate) : Step → Option (Option Text)
  | .fault d words => if d = c then some (some words) else none
  | .clearFault d => if d = c then some none else none
  | _ => none

/-- What a step says about the name of the operator in the environment. -/
def environment? : Step → Option (Option Text)
  | .setEnvironment name => some name
  | _ => none

/-- What a step says about the resource. -/
def resource? : Step → Option (Option Jenkins)
  | .declare j => some (some j)
  | _ => none

/-- What a step says about full diagnostics. -/
def fullDiagnostics? : Step → Option Bool
  | .configure full _ => full
  | _ => none

/-- What a step says about the name of the operator. -/
def operatorName? : Step → Option (Option Text)
  | .configure _ operator => operator
  | _ => none

/-- What the last step with a say in a matter said, and what held at the start if there was none. -/
def lastWord {α : Type} (word : Step → Option α) (start : α) (history : List Step) : α :=
  (history.reverse.findSome? word).getD start

/-- Whether a step only asks, or writes into something that is not the store: into a copy of the
data of a secret, or into the table that the session was opened with. -/
def isPassing : Step → Bool
  | .get _ => true
  | .changeCopy .. => true
  | .changeSource .. => true
  | .validate => true
  | .checkSeedJobs => true
  | .checkBackup => true
  | .describe => true
  | _ => false

end Step

/-- A table with the puts and deletes of a history carried out. -/
def Secrets.edited (t : Secrets) (history : List Step) : Secrets :=
  (history.filterMap Step.edit?).foldl (fun t edit => edit t) t

/-! ## Heaps -/

namespace Heap

variable {h h' h'' : Heap} {a b : Address} {key : Text} {value : Bytes} {d : SecretData}

/-- What is allocated is there to be read. -/
theorem read_alloc (h : Heap) (d : SecretData) : (h.alloc d).2.read (h.alloc d).1 = d := by
  simp [read, alloc, size]

/-- Writing allocates nothing. -/
theorem size_write : (h.write a key value).size = h.size := by
  simp [size, write]

/-- Writing at one address does not show at another one. -/
theorem read_write_of_ne (hne : a ≠ b) : (h.write a key value).read b = h.read b := by
  simp [read, write, hne]

/-- A heap in which everything in another one is still there. -/
structure Extends (h' h : Heap) : Prop where
  /-- it is not smaller -/
  size_le : h.size ≤ h'.size
  /-- what was there is the same -/
  read_eq : ∀ a < h.size, h'.read a = h.read a

namespace Extends

/-- A heap extends itself. -/
protected theorem refl (h : Heap) : h.Extends h :=
  ⟨Nat.le_refl _, fun _ _ => rfl⟩

protected theorem trans (h₂ : h''.Extends h') (h₁ : h'.Extends h) : h''.Extends h where
  size_le := Nat.le_trans h₁.size_le h₂.size_le
  read_eq a ha :=
    (h₂.read_eq a (Nat.lt_of_lt_of_le ha h₁.size_le)).trans (h₁.read_eq a ha)

/-- An allocation leaves everything that was there before. -/
theorem alloc (h : Heap) (d : SecretData) : (h.alloc d).2.Extends h where
  size_le := by simp [size, Heap.alloc]
  read_eq a ha := by rw [read, read, Heap.alloc, List.getElem?_append_left ha]

/-- What is new may be written into. -/
theorem write (he : h'.Extends h) (ha : h.size ≤ a) : (h'.write a key value).Extends h where
  size_le := by rw [size_write]; exact he.size_le
  read_eq b hb := by
    rw [read_write_of_ne (Nat.ne_of_gt (Nat.lt_of_lt_of_le hb ha)), he.read_eq b hb]

end Extends

end Heap

namespace References

variable {r : References} {h h' : Heap}

theorem secrets_insert (r : References) (c : Coordinate) (a : Address) (h : Heap) :
    secrets (r.insert c a) h = (r.secrets h).insert c (h.read a) :=
  Table.map_insert h.read r c a

theorem secrets_erase (r : References) (c : Coordinate) (h : Heap) :
    secrets (r.erase c) h = (r.secrets h).erase c := by
  simp only [secrets, Table.erase, List.filter_map]
  rfl

/-- Secrets change only where the data at one of their addresses does. -/
theorem secrets_congr (hread : ∀ e ∈ r, h'.read e.2 = h.read e.2) : r.secrets h' = r.secrets h :=
  List.map_congr_left fun e he => by rw [hread e he]

/-- Copies have new addresses, and everything else is still there. -/
theorem copies_spec (r : References) (h : Heap) :
    (r.copies h).2.Extends h ∧ ∀ e ∈ (r.copies h).1, h.size ≤ e.2 ∧ e.2 < (r.copies h).2.size := by
  induction r generalizing h with
  | nil => exact ⟨.refl h, List.forall_mem_nil _⟩
  | cons e rest ih =>
    obtain ⟨hextends, hnew⟩ := ih (h.copy e.2).2
    have hfirst : (h.copy e.2).2.Extends h := .alloc h _
    have hsize : (h.copy e.2).2.size = h.size + 1 := by simp [Heap.copy, Heap.alloc, Heap.size]
    refine ⟨hextends.trans hfirst, List.forall_mem_cons.mpr ⟨⟨Nat.le_refl _, ?_⟩, ?_⟩⟩
    · exact Nat.lt_of_lt_of_le (by rw [hsize]; exact Nat.lt_succ_self _) hextends.size_le
    · exact fun f hf => ⟨Nat.le_trans hfirst.size_le (hnew f hf).1, (hnew f hf).2⟩

/-- Copies have the data of what they are copies of. -/
theorem secrets_copies (hinside : ∀ e ∈ r, e.2 < h.size) :
    (r.copies h).1.secrets (r.copies h).2 = r.secrets h := by
  induction r generalizing h with
  | nil => rfl
  | cons e rest ih =>
    obtain ⟨c, a⟩ := e
    obtain ⟨ha, hrest⟩ := List.forall_mem_cons.mp hinside
    have hfirst : (h.copy a).2.Extends h := .alloc h _
    have hothers := ih (h := (h.copy a).2) fun e he =>
      Nat.lt_of_lt_of_le (hrest e he) hfirst.size_le
    have hread : (copies rest (h.copy a).2).2.read (h.copy a).1 = h.read a := by
      rw [(copies_spec rest (h.copy a).2).1.read_eq _ (by simp [Heap.copy, Heap.alloc, Heap.size])]
      exact Heap.read_alloc h _
    rw [secrets_congr fun e he => hfirst.read_eq _ (hrest e he)] at hothers
    exact congrArg₂ List.cons (Prod.ext rfl hread) hothers

end References

/-! ## Questions on their own -/

/-- A question that a session answers. -/
inductive Question
  /-- the data of a secret -/
  | get (secret : Coordinate)
  /-- the verdict -/
  | verdict
  /-- whether the seed jobs are sound -/
  | seedJobs
  /-- whether the backup is sound -/
  | backup

/-- The step that asks a question. -/
def Question.step : Question → Step
  | .get c => .get c
  | .verdict => .validate
  | .seedJobs => .checkSeedJobs
  | .backup => .checkBackup

/-- What a single question depends on. -/
structure Occasion where
  /-- the secrets of the store -/
  secrets : Secrets
  /-- the faults in front of the store -/
  fault? : Coordinate → Option Text
  /-- the name of the operator in the environment -/
  environment : Option Text
  /-- the resource that is checked -/
  resource : Option Jenkins
  /-- the settings of the gate -/
  gate : Gate

namespace Occasion

/-- A store built from the secrets, behind the faults. -/
def store (o : Occasion) : Store where
  source := .manifests
  get c :=
    match o.fault? c with
    | some words => .error (.reported words)
    | none => o.secrets.store.get c

variable [Platform]

/-- A check of the resource, which has to be there. -/
def check (o : Occasion) (f : Jenkins → Run LookupFault Bool) : Run LookupFault Answer :=
  match o.resource with
  | none => Run.fail (.broken .noResource)
  | some j => Answer.verdict <$> f j

/-- The answer to a question that is asked once. -/
def ask (o : Occasion) : Question → Run LookupFault Answer
  | .get c => Answer.data <$> o.store.lookUp c
  | .verdict => o.check (o.gate.validate o.environment o.store)
  | .seedJobs => o.check fun j => j.checkSeedJobs o.store
  | .backup => o.check fun j => j.checkBackup o.store (o.gate.operator o.environment)

end Occasion

namespace Session

/-- The occasion that a history makes. -/
def occasion (s : Session) (history : List Step) : Occasion where
  secrets := s.secrets.edited history
  fault? c := Step.lastWord (Step.faultAt? c) (s.faults.get? c) history
  environment := Step.lastWord Step.environment? s.environment history
  resource := Step.lastWord Step.resource? s.resource history
  gate :=
    ⟨Step.lastWord Step.fullDiagnostics? s.gate.fullDiagnostics history,
      Step.lastWord Step.operatorName? s.gate.operatorName history⟩

/-! ## Runs -/

section

variable [Platform]

/-- A session after steps. -/
def after (s : Session) (history : List Step) : Session :=
  history.foldl next s

/-- A run goes on step by step. -/
theorem after_cons (s : Session) (step : Step) (rest : List Step) :
    s.after (step :: rest) = (s.next step).after rest := rfl

/-- The answers to later steps are those of a session that starts after the earlier ones. -/
theorem answers_append (s : Session) (history rest : List Step) :
    s.answers (history ++ rest) = s.answers history ++ (s.after history).answers rest := by
  induction history generalizing s with
  | nil => rfl
  | cons step history ih =>
    rw [List.cons_append, answers, answers, ih, after_cons, List.cons_append]

/-- Every step has one answer. -/
theorem length_answers (s : Session) (steps : List Step) :
    (s.answers steps).length = steps.length := by
  induction steps generalizing s with
  | nil => rfl
  | cons step rest ih => rw [answers, List.length_cons, List.length_cons, ih]

end

/-! ## What is held outside of the store -/

/-- Nothing that is held outside of the store is held by the store. -/
structure Separate (s : Session) : Prop where
  /-- the table that the store was opened with has its data in the heap -/
  source_lt : ∀ e ∈ s.source, e.2 < s.heap.size
  /-- the store has its data in the heap -/
  held_lt : ∀ e ∈ s.held, e.2 < s.heap.size
  /-- the two share no data -/
  ne : ∀ e ∈ s.source, ∀ f ∈ s.held, e.2 ≠ f.2

/-- A session in which everything in another one is still there, and some more data that nobody
else holds. -/
def Grown (s t : Session) : Prop :=
  ∃ heap : Heap, heap.Extends s.heap ∧ t = { s with heap := heap }

variable {s t : Session}

/-- A session that does nothing has grown by nothing. -/
theorem Grown.refl (s : Session) : s.Grown s := ⟨s.heap, .refl _, rfl⟩

theorem Grown.trans {u : Session} (hst : s.Grown t) (htu : t.Grown u) : s.Grown u := by
  obtain ⟨heap, hheap, rfl⟩ := hst
  obtain ⟨heap', hheap', rfl⟩ := htu
  exact ⟨heap', hheap'.trans hheap, rfl⟩

/-- Nothing that a session hands out changes the secrets that it holds. -/
theorem Grown.secrets_eq (h : s.Grown t) (hs : s.Separate) : t.secrets = s.secrets := by
  obtain ⟨heap, hheap, rfl⟩ := h
  exact References.secrets_congr fun e he => hheap.read_eq _ (hs.held_lt e he)

/-- What was separate stays so when the session grows. -/
theorem Grown.separate (h : s.Grown t) (hs : s.Separate) : t.Separate := by
  obtain ⟨heap, hheap, rfl⟩ := h
  exact ⟨fun e he => Nat.lt_of_lt_of_le (hs.source_lt e he) hheap.size_le,
    fun e he => Nat.lt_of_lt_of_le (hs.held_lt e he) hheap.size_le, hs.ne⟩

/-- What a lookup hands out is new and has the data that was asked for. -/
theorem grown_handOut (s : Session) (c : Coordinate) :
    s.Grown (s.handOut c).2 ∧ ∀ a, (s.handOut c).1 = some a →
      s.heap.size ≤ a ∧ s.store.get c = .ok ((s.handOut c).2.heap.read a) := by
  unfold handOut
  split
  · next a hfault hheld =>
    refine ⟨⟨_, .alloc s.heap _, rfl⟩, ?_⟩
    rintro _ ⟨⟩
    have hget : s.secrets.get? c = some (s.heap.read a) := by
      rw [secrets, References.secrets, Table.get?_map, hheld]
      rfl
    refine ⟨Nat.le_refl _, ?_⟩
    rw [store, Store.withFaults]
    simp only [hfault, Secrets.store, hget]
    exact congrArg Except.ok (Heap.read_alloc s.heap _).symm
  · refine ⟨.refl s, ?_⟩
    rintro _ ⟨⟩

/-- Lookups hand copies out, and do no more. -/
theorem grown_afterLookups (s : Session) (cs : List Coordinate) : s.Grown (s.afterLookups cs) := by
  induction cs generalizing s with
  | nil => exact .refl s
  | cons c rest ih => exact (s.grown_handOut c).1.trans (ih _)

/-- Writing to a copy writes to nothing that the store refers to. -/
theorem grown_changeCopy (s : Session) (c : Coordinate) (key : Text) (value : Bytes) :
    s.Grown (s.changeCopy c key value) := by
  obtain ⟨hgrown, hnew⟩ := s.grown_handOut c
  unfold changeCopy
  split
  · next heq =>
    rw [heq] at hgrown
    exact hgrown
  · next a t heq =>
    rw [heq] at hgrown hnew
    obtain ⟨heap, hheap, rfl⟩ := hgrown
    -- the copy is not in the heap from before, so nothing from before is written into
    exact ⟨_, hheap.write (hnew a rfl).1, rfl⟩

section

variable [Platform]

/-- Where a passing step writes into what was there before, it is the table that the store was
opened with. -/
theorem grown_or_changeSource {step : Step} (h : step.isPassing = true) (s : Session) :
    s.Grown (s.next step) ∨ ∃ c key value, s.next step = s.changeSource c key value := by
  cases step with
  | put | delete | fault | clearFault | setEnvironment | declare | configure => cases h
  | changeCopy c key value => exact .inl (s.grown_changeCopy c key value)
  | changeSource c key value => exact .inr ⟨c, key, value, rfl⟩
  | _ => exact .inl (s.grown_afterLookups _)

/-- A passing step changes nothing but data and the table that the store was opened with. -/
theorem exists_next_of_isPassing {step : Step} (h : step.isPassing = true) (s : Session) :
    ∃ heap source, s.next step = { s with heap := heap, source := source } := by
  rcases grown_or_changeSource h s with ⟨heap, -, heq⟩ | ⟨c, key, value, heq⟩
  · exact ⟨heap, s.source, heq⟩
  · rw [heq, changeSource]
    split <;> exact ⟨_, _, rfl⟩

end

/-! ### Steps keep it so -/

/-- A session is opened with the data of the table in places of their own. -/
theorem Separate.opened (table : SecretTable) (faults : Table Coordinate Text)
    (environment : Option Text) (resource : Option Jenkins) (gate : Gate) :
    (opened table faults environment resource gate).Separate := by
  obtain ⟨hextends, hnew⟩ := table.references.copies_spec table.heap
  refine ⟨fun e he => Nat.lt_of_lt_of_le (table.isInside e he) hextends.size_le,
    fun e he => (hnew e he).2, fun e he f hf heq => ?_⟩
  have hlt : e.2 < f.2 := Nat.lt_of_lt_of_le (table.isInside e he) (hnew f hf).1
  exact Nat.ne_of_lt hlt heq

/-- Secrets that are put into the store are put into places of their own. -/
theorem Separate.put (h : s.Separate) (c : Coordinate) (data : SecretData) :
    (s.put c data).Separate := by
  have hextends : (s.heap.alloc data).2.Extends s.heap := .alloc s.heap data
  have hsize : (s.heap.alloc data).2.size = s.heap.size + 1 := by simp [Heap.alloc, Heap.size]
  refine ⟨fun e he => Nat.lt_of_lt_of_le (h.source_lt e he) hextends.size_le, fun e he => ?_,
    fun e he f hf => ?_⟩
  · show e.2 < (s.heap.alloc data).2.size
    rcases Table.mem_insert he with rfl | he
    · rw [hsize]; exact Nat.lt_succ_self _
    · exact Nat.lt_of_lt_of_le (h.held_lt e he) hextends.size_le
  · rcases Table.mem_insert hf with rfl | hf
    · exact Nat.ne_of_lt (h.source_lt e he)
    · exact h.ne e he f hf

/-- Writing to the source of a secret leaves the store's own places apart. -/
theorem Separate.changeSource (h : s.Separate) (c : Coordinate) (key : Text) (value : Bytes) :
    (s.changeSource c key value).Separate := by
  unfold Session.changeSource
  split
  · exact ⟨fun e he => by rw [Heap.size_write]; exact h.source_lt e he,
      fun e he => by rw [Heap.size_write]; exact h.held_lt e he, h.ne⟩
  · have hextends := Heap.Extends.alloc s.heap [(key, value)]
    have hsize : (s.heap.alloc [(key, value)]).2.size = s.heap.size + 1 := by
      simp [Heap.alloc, Heap.size]
    refine ⟨fun e he => ?_, fun e he => Nat.lt_of_lt_of_le (h.held_lt e he) hextends.size_le,
      fun e he f hf => ?_⟩
    · show e.2 < (s.heap.alloc [(key, value)]).2.size
      rcases Table.mem_insert he with rfl | he
      · rw [hsize]; exact Nat.lt_succ_self _
      · exact Nat.lt_of_lt_of_le (h.source_lt e he) hextends.size_le
    · rcases Table.mem_insert he with rfl | he
      · exact Nat.ne_of_gt (h.held_lt f hf)
      · exact h.ne e he f hf

/-- Writing into the table that the store was opened with does not reach the store. -/
theorem Separate.secrets_changeSource (h : s.Separate) (c : Coordinate) (key : Text)
    (value : Bytes) : (s.changeSource c key value).secrets = s.secrets := by
  unfold Session.changeSource
  split
  · next a hsource =>
    exact References.secrets_congr fun e he =>
      Heap.read_write_of_ne (h.ne _ (Table.mem_of_get? hsource) e he)
  · exact References.secrets_congr fun e he =>
      (Heap.Extends.alloc s.heap _).read_eq _ (h.held_lt e he)

section

variable [Platform]

/-- Every step keeps the places apart. -/
theorem Separate.next (h : s.Separate) (step : Step) : (s.next step).Separate := by
  cases hpassing : step.isPassing with
  | true =>
    rcases grown_or_changeSource hpassing s with hgrown | ⟨c, key, value, heq⟩
    · exact hgrown.separate h
    · rw [heq]
      exact h.changeSource c key value
  | false =>
    cases step with
    | put c data => exact h.put c data
    | delete c =>
      exact ⟨h.source_lt, fun e he => h.held_lt e (List.mem_of_mem_filter he),
        fun e he f hf => h.ne e he f (List.mem_of_mem_filter hf)⟩
    | fault | clearFault | setEnvironment | declare | configure =>
      exact ⟨h.source_lt, h.held_lt, h.ne⟩
    | _ => cases hpassing

/-- A step changes the secrets of the store only by a put or a delete. -/
theorem secrets_next (h : s.Separate) (step : Step) :
    (s.next step).secrets = (step.edit?.getD id) s.secrets := by
  cases hpassing : step.isPassing with
  | true =>
    have hedit : step.edit? = none := by cases step <;> first | rfl | cases hpassing
    rw [hedit, Option.getD_none, id]
    rcases grown_or_changeSource hpassing s with hgrown | ⟨c, key, value, heq⟩
    · exact hgrown.secrets_eq h
    · -- the one step that writes in place writes where the store does not look
      rw [heq]
      exact h.secrets_changeSource c key value
  | false =>
    cases step with
    | put c data =>
      show References.secrets (s.held.insert c s.heap.size) (s.heap.alloc data).2 = _
      -- what the store held before is read as before
      rw [References.secrets_insert, References.secrets_congr fun e he =>
        (Heap.Extends.alloc s.heap data).read_eq _ (h.held_lt e he)]
      exact congrArg _ (Heap.read_alloc s.heap data)
    | delete c => exact References.secrets_erase s.held c s.heap
    | fault | clearFault | setEnvironment | declare | configure => rfl
    | _ => cases hpassing

/-- So does every run. -/
theorem Separate.after (h : s.Separate) (history : List Step) : (s.after history).Separate := by
  induction history generalizing s with
  | nil => exact h
  | cons step rest ih => exact ih (h.next step)

/-- The secrets of the store are those of the edits, whatever else was done. -/
theorem secrets_after (h : s.Separate) (history : List Step) :
    (s.after history).secrets = s.secrets.edited history := by
  induction history generalizing s with
  | nil => rfl
  | cons step rest ih =>
    rw [after_cons, ih (h.next step), secrets_next h]
    cases step <;> rfl

/-! ## States and histories -/

/-- If each step decides a matter by what it says, a run decides it by the last word. Passing steps
have no say in matters in which data has none. -/
theorem after_eq_lastWord {α : Type} (matter : Session → α) {word : Step → Option α}
    (hdata : ∀ s heap source, matter { s with heap := heap, source := source } = matter s)
    (hpassing : ∀ step, step.isPassing = true → word step = none)
    (hstep : ∀ s step, step.isPassing = false →
      matter (s.next step) = (word step).getD (matter s))
    (s : Session) (history : List Step) :
    matter (s.after history) = Step.lastWord word (matter s) history := by
  induction history generalizing s with
  | nil => rfl
  | cons step rest ih =>
    have hnext : matter (s.next step) = (word step).getD (matter s) := by
      cases h : step.isPassing with
      | false => exact hstep s step h
      | true =>
        obtain ⟨heap, source, heq⟩ := exists_next_of_isPassing h s
        rw [heq, hdata, hpassing step h, Option.getD_none]
    rw [after_cons, ih, hnext, Step.lastWord, Step.lastWord, List.reverse_cons,
      List.findSome?_append, List.findSome?_singleton]
    -- a later word overrides the one of the first step
    cases rest.reverse.findSome? word <;> rfl

/-- The fault of a coordinate is the last one that was set. -/
theorem fault?_after (s : Session) (history : List Step) (c : Coordinate) :
    (s.after history).faults.get? c =
      Step.lastWord (Step.faultAt? c) (s.faults.get? c) history := by
  refine after_eq_lastWord (fun s => s.faults.get? c) (fun _ _ _ => rfl)
    (fun step h => by cases step <;> first | rfl | cases h) (fun s step h => ?_) s history
  cases step with
  | fault d words =>
    rw [next, Table.get?_insert, Step.faultAt?]
    split <;> rfl
  | clearFault d =>
    rw [next, Table.get?_erase, Step.faultAt?]
    split <;> rfl
  | put | delete | setEnvironment | declare | configure => rfl
  | _ => cases h

/-- So is the environment. -/
theorem environment_after (s : Session) (history : List Step) :
    (s.after history).environment = Step.lastWord Step.environment? s.environment history :=
  after_eq_lastWord Session.environment (fun _ _ _ => rfl)
    (fun step h => by cases step <;> first | rfl | cases h)
    (fun _ step h => by cases step <;> first | rfl | cases h) s history

theorem resource_after (s : Session) (history : List Step) :
    (s.after history).resource = Step.lastWord Step.resource? s.resource history :=
  after_eq_lastWord Session.resource (fun _ _ _ => rfl)
    (fun step h => by cases step <;> first | rfl | cases h)
    (fun _ step h => by cases step <;> first | rfl | cases h) s history

theorem fullDiagnostics_after (s : Session) (history : List Step) :
    (s.after history).gate.fullDiagnostics =
      Step.lastWord Step.fullDiagnostics? s.gate.fullDiagnostics history :=
  after_eq_lastWord (fun s => s.gate.fullDiagnostics) (fun _ _ _ => rfl)
    (fun step h => by cases step <;> first | rfl | cases h)
    (fun _ step h => by cases step <;> first | rfl | cases h) s history

theorem operatorName_after (s : Session) (history : List Step) :
    (s.after history).gate.operatorName =
      Step.lastWord Step.operatorName? s.gate.operatorName history :=
  after_eq_lastWord (fun s => s.gate.operatorName) (fun _ _ _ => rfl)
    (fun step h => by cases step <;> first | rfl | cases h)
    (fun _ step h => by cases step <;> first | rfl | cases h) s history

/-! ## Answers -/

/-- The store after a history is the one that the history calls for. -/
theorem store_after (h : s.Separate) (history : List Step) :
    (s.after history).store = (s.occasion history).store := by
  rw [store, Store.withFaults, Occasion.store]
  simp only [occasion, fault?_after, secrets_after h]
  rfl

/-- A question is answered after a history as it is on the occasion that the history makes. -/
theorem answer_after (h : s.Separate) (history : List Step) (q : Question) :
    (s.after history).answer q.step = (s.occasion history).ask q := by
  have hgate : (s.after history).gate = (s.occasion history).gate := by
    rw [occasion, ← fullDiagnostics_after, ← operatorName_after]
  have hcheck : (s.after history).check = (s.occasion history).check := by
    funext f
    rw [check, Occasion.check, resource_after]
    rfl
  have henvironment : (s.after history).environment = (s.occasion history).environment :=
    environment_after s history
  cases q <;>
    simp only [Question.step, answer, Occasion.ask, store_after h, hgate, hcheck, henvironment]

end

/-- Two sessions that differ at most in addresses and in what is held outside of their stores. -/
structure Alike (s t : Session) : Prop where
  /-- the secrets are the same -/
  secrets : s.secrets = t.secrets
  /-- the faults are the same -/
  faults : s.faults = t.faults
  /-- the environment is the same -/
  environment : s.environment = t.environment
  /-- the resource is the same -/
  resource : s.resource = t.resource
  /-- the settings are the same -/
  gate : s.gate = t.gate

theorem Alike.trans {u : Session} (hst : s.Alike t) (htu : t.Alike u) : s.Alike u :=
  ⟨hst.secrets.trans htu.secrets, hst.faults.trans htu.faults,
    hst.environment.trans htu.environment, hst.resource.trans htu.resource,
    hst.gate.trans htu.gate⟩

theorem Alike.symm (h : s.Alike t) : t.Alike s :=
  ⟨h.secrets.symm, h.faults.symm, h.environment.symm, h.resource.symm, h.gate.symm⟩

section

variable [Platform]

/-- Sessions that are alike answer alike. -/
theorem Alike.answer (h : s.Alike t) (step : Step) : s.answer step = t.answer step := by
  have hstore : s.store = t.store := by rw [store, store, h.secrets, h.faults]
  have hcheck : s.check = t.check := by
    funext f
    rw [check, check, h.resource]
  cases step <;>
    simp only [Session.answer, hstore, hcheck, h.secrets, h.environment, h.gate]

/-- A passing step leaves an alike session behind. -/
theorem alike_next_of_isPassing {step : Step} (hpassing : step.isPassing = true)
    (h : s.Separate) : s.Alike (s.next step) := by
  have hsecrets : (s.next step).secrets = s.secrets := by
    have hedit : step.edit? = none := by cases step <;> first | rfl | cases hpassing
    rw [secrets_next h, hedit]
    rfl
  obtain ⟨heap, source, heq⟩ := exists_next_of_isPassing hpassing s
  exact ⟨hsecrets.symm, by rw [heq], by rw [heq], by rw [heq], by rw [heq]⟩

/-- Sessions that are alike stay alike when they take the same step. -/
theorem Alike.next (h : s.Alike t) (hs : s.Separate) (ht : t.Separate) (step : Step) :
    (s.next step).Alike (t.next step) := by
  cases hpassing : step.isPassing with
  | true =>
    exact (alike_next_of_isPassing hpassing hs).symm.trans
      (h.trans (alike_next_of_isPassing hpassing ht))
  | false =>
    refine ⟨by rw [secrets_next hs, secrets_next ht, h.secrets], ?_, ?_, ?_, ?_⟩
    all_goals
      cases step with
      | put | delete | fault | clearFault | setEnvironment | declare | configure =>
        simp only [Session.next, Session.put, h.faults, h.environment, h.resource, h.gate]
      | _ => cases hpassing

/-- Alike sessions answer alike from then on. -/
theorem Alike.answers (h : s.Alike t) (hs : s.Separate) (ht : t.Separate) (steps : List Step) :
    s.answers steps = t.answers steps := by
  induction steps generalizing s t with
  | nil => rfl
  | cons step rest ih =>
    rw [Session.answers, Session.answers, h.answer, ih (h.next hs ht step) (hs.next step)
      (ht.next step)]

/-- **Sessions keep nothing but what they are told.** Every question is answered as if it were asked
once, of a store built from the table that the session was opened with and the puts and deletes
before the question, under the faults, the environment, the resource and the settings that were set
last. Leaving out a passing step changes no other answer. The table may be shared, and it may be
written into while the session goes on. -/
theorem answers_forget (table : SecretTable) (faults : Table Coordinate Text)
    (environment : Option Text) (resource : Option Jenkins) (gate : Gate) :
    let s := opened table faults environment resource gate
    s.secrets = table.references.secrets table.heap ∧
      (∀ history (q : Question) rest,
        (s.answers (history ++ q.step :: rest))[history.length]? =
          some ((s.occasion history).ask q)) ∧
      ∀ history step rest, step.isPassing = true →
        (s.answers (history ++ step :: rest)).eraseIdx history.length =
          s.answers (history ++ rest) := by
  intro s
  have hs : s.Separate := .opened table faults environment resource gate
  refine ⟨References.secrets_copies table.isInside, ?_, ?_⟩
  · intro history q rest
    rw [answers_append, ← length_answers s history, List.getElem?_append_right (Nat.le_refl _),
      Nat.sub_self, answers, List.getElem?_cons_zero, answer_after hs]
  · intro history step rest hpassing
    -- without the step the same is answered, since it leaves the sessions alike
    have ht := hs.after history
    rw [answers_append, answers_append, ← length_answers s history,
      List.eraseIdx_append_of_length_le (Nat.le_refl _), Nat.sub_self, answers,
      List.eraseIdx_cons_zero,
      (alike_next_of_isPassing hpassing ht).symm.answers (ht.next step) ht]

end

section

open scoped BuiltIn

/-- Two secrets of a table share their data, and while a lookup of one fails somebody writes into
the other. -/
theorem answers_forget_changeSource :
    let k : Coordinate := ⟨"ns", "k"⟩
    let l : Coordinate := ⟨"ns", "l"⟩
    let table : SecretTable := ⟨⟨[[("key", [1])]]⟩, [(k, 0), (l, 0)], by decide⟩
    let s := opened table [] none none ⟨false, none⟩
    let written : Step := .changeSource l "key" [9]
    written.isPassing = true ∧
      (s.answers ([.fault k "boom"] ++ written :: [.clearFault k, .get k])).eraseIdx 1 =
        s.answers ([.fault k "boom"] ++ [.clearFault k, .get k]) :=
  ⟨rfl, (answers_forget ..).2.2 _ _ _ rfl⟩

/-- Without the copies a store would show what is written into the table it was opened with. -/
example :
    let k : Coordinate := ⟨"ns", "k"⟩
    let held : References := [(k, 0)]
    let s : Session := ⟨⟨[[("key", [1])]]⟩, held, held, [], none, none, ⟨false, none⟩⟩
    ((s.next (.changeSource k "key" [9])).answer (.get k)).outcome =
      .ok (.data [("key", [9])]) := by
  decide +kernel

/-- If lookups handed out what the store holds, the store would show what is written into that. -/
example :
    let k : Coordinate := ⟨"ns", "k"⟩
    let s := opened ⟨⟨[[("key", [1])]]⟩, [(k, 0)], by decide⟩ [] none none ⟨false, none⟩
    s.held = [(k, 1)] ∧
      ({ s with heap := s.heap.write 1 "key" [9] }.answer (.get k)).outcome =
        .ok (.data [("key", [9])]) := by
  decide +kernel

end

end Session

end JenkinsAdmission
