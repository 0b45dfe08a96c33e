import JenkinsAdmission.Platform

/-!
# Runs

Whatever the library does leaves a **trace**: what it handed to the console, which secrets it asked
for and which steps it took to reach a cluster, in order. A `Run` is the trace together with an
outcome, and runs are composed as a monad: the second part runs only if the first succeeds, and its
trace follows.

* `Run.display` hands something to the console. What the console cannot draw breaks the run down.
* `Run.trace_bind` and `Run.outcome_bind` say what composition does to both parts.
* `Trace.console`, `Trace.lookups` and `Trace.calls` project a trace, and each of them turns the
  composition of traces into the composition of lists.
-/

namespace JenkinsAdmission

/-- Where secrets come from. -/
inductive Source
  /-- manifests at hand -/
  | manifests
  /-- the API of a cluster -/
  | cluster
  deriving DecidableEq

/-- A question to a person. -/
structure Prompt where
  /-- the question -/
  message : Text
  /-- the answers to choose from -/
  choices : List Text
  /-- what points at the current choice -/
  pointer : Text
  /-- what stands in front of the question -/
  mark : Text
  deriving DecidableEq

/-- A step towards a cluster. -/
inductive ClusterCall
  /-- list the contexts of the configuration -/
  | listContexts
  /-- let a person choose -/
  | ask (prompt : Prompt)
  /-- load the configuration of a context -/
  | loadContext (name : Text)
  /-- load the configuration of the surrounding pod -/
  | loadInCluster
  deriving DecidableEq

/-- Something that a run did. -/
inductive Event
  /-- something was handed to the console -/
  | displayed (d : Display)
  /-- a secret was asked for -/
  | lookedUp (source : Source) (place : Coordinate)
  /-- a step towards a cluster was taken -/
  | called (call : ClusterCall)
  deriving DecidableEq

/-- Events in order. -/
abbrev Trace := List Event

namespace Trace

/-- What was handed to the console. -/
def console (t : Trace) : List Display :=
  t.filterMap fun
    | .displayed d => some d
    | _ => none

/-- The secrets that a source was asked for. -/
def lookupsIn (source : Source) (t : Trace) : List Coordinate :=
  t.filterMap fun
    | .lookedUp s c => if s = source then some c else none
    | _ => none

/-- The secrets that were asked for. -/
def lookups (t : Trace) : List Coordinate :=
  t.filterMap fun
    | .lookedUp _ c => some c
    | _ => none

/-- The steps that were taken towards a cluster. -/
def calls (t : Trace) : List ClusterCall :=
  t.filterMap fun
    | .called c => some c
    | _ => none

@[simp] theorem console_append (s t : Trace) : console (s ++ t) = console s ++ console t := by
  simp [console]

@[simp] theorem lookups_append (s t : Trace) : lookups (s ++ t) = lookups s ++ lookups t := by
  simp [lookups]

@[simp] theorem lookupsIn_append (source : Source) (s t : Trace) :
    lookupsIn source (s ++ t) = lookupsIn source s ++ lookupsIn source t := by
  simp [lookupsIn]

@[simp] theorem calls_append (s t : Trace) : calls (s ++ t) = calls s ++ calls t := by
  simp [calls]

end Trace

/-- A kind of faults among which there are breakdowns. -/
class BreaksDown (ε : Type) where
  /-- a breakdown as a fault -/
  broken : Breakdown → ε

/-- An outcome with the trace that led to it. -/
structure Run (ε α : Type) where
  /-- the value, or the fault that ended the run -/
  outcome : Except ε α
  /-- what was done -/
  trace : Trace

namespace Run

variable {ε ζ α β : Type}

/-- A value without doing anything. -/
protected def pure (a : α) : Run ε α := ⟨.ok a, []⟩

/-- One run after the other. -/
protected def bind (m : Run ε α) (f : α → Run ε β) : Run ε β :=
  match m.outcome with
  | .ok a => ⟨(f a).outcome, m.trace ++ (f a).trace⟩
  | .error e => ⟨.error e, m.trace⟩

instance : Monad (Run ε) where
  pure := Run.pure
  bind := Run.bind

/-- A fault without doing anything. -/
def fail (e : ε) : Run ε α := ⟨.error e, []⟩

/-- A result that is known already. -/
def ofExcept (r : Except ε α) : Run ε α := ⟨r, []⟩

/-- One event. -/
def log (e : Event) : Run ε Unit := ⟨.ok (), [e]⟩

section

variable [Platform] [BreaksDown ε]

/-- Hand something to the console, which may be unable to draw it. -/
def display (d : Display) : Run ε Unit where
  outcome := if d.isDrawn then .ok () else .error (BreaksDown.broken .undrawable)
  trace := [.displayed d]

/-- One message. -/
def say (level : Level) (body : Text) : Run ε Unit :=
  display (.message level body)

end

/-- A run with its faults seen as faults of another kind. -/
def mapError (f : ε → ζ) (m : Run ε α) : Run ζ α :=
  ⟨m.outcome.mapError f, m.trace⟩

/-- A run whose fault is answered by another run. -/
def handle (m : Run ε α) (f : ε → Run ζ α) : Run ζ α :=
  match m.outcome with
  | .ok a => ⟨.ok a, m.trace⟩
  | .error e => ⟨(f e).outcome, m.trace ++ (f e).trace⟩

@[simp] theorem outcome_pure (a : α) : (pure a : Run ε α).outcome = .ok a := rfl

@[simp] theorem trace_pure (a : α) : (pure a : Run ε α).trace = [] := rfl

theorem outcome_bind (m : Run ε α) (f : α → Run ε β) :
    (m >>= f).outcome = m.outcome.bind fun a => (f a).outcome := by
  show (Run.bind m f).outcome = _
  unfold Run.bind
  cases h : m.outcome <;> rfl

theorem trace_bind (m : Run ε α) (f : α → Run ε β) :
    (m >>= f).trace = m.trace ++
      match m.outcome with
      | .ok a => (f a).trace
      | .error _ => [] := by
  show (Run.bind m f).trace = _
  unfold Run.bind
  cases h : m.outcome <;> simp

/-- A run after one that succeeded. -/
theorem bind_of_ok {m : Run ε α} {a : α} (h : m.outcome = .ok a) (f : α → Run ε β) :
    m >>= f = ⟨(f a).outcome, m.trace ++ (f a).trace⟩ := by
  show Run.bind m f = _
  simp [Run.bind, h]

/-- Nothing follows a run that failed. -/
theorem bind_of_error {m : Run ε α} {e : ε} (h : m.outcome = .error e) (f : α → Run ε β) :
    m >>= f = ⟨.error e, m.trace⟩ := by
  show Run.bind m f = _
  simp [Run.bind, h]

theorem id_map_run (m : Run ε α) : id <$> m = m := by
  obtain ⟨o, t⟩ := m
  cases o <;> simp [Functor.map, Run.bind, Run.pure]

theorem bind_assoc_run {γ : Type} (m : Run ε α) (f : α → Run ε β) (g : β → Run ε γ) :
    m >>= f >>= g = m >>= fun a => f a >>= g := by
  show Run.bind (Run.bind m f) g = Run.bind m fun a => Run.bind (f a) g
  obtain ⟨o, t⟩ := m
  cases o with
  | error e => rfl
  | ok a =>
    simp only [Run.bind]
    cases (f a).outcome <;> simp

theorem pure_bind_run (a : α) (f : α → Run ε β) : pure a >>= f = f a := by
  show Run.bind (Run.pure a) f = f a
  simp [Run.bind, Run.pure]

instance : LawfulMonad (Run ε) :=
  LawfulMonad.mk' _ id_map_run pure_bind_run bind_assoc_run

end Run

end JenkinsAdmission
