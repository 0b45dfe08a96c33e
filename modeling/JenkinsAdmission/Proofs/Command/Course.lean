import JenkinsAdmission.Command.Basic
import JenkinsAdmission.Proofs.Cluster

/-!
# The course of the command

The command does for an order what one can do with the library by hand: load the resource, open a
store, and ask the gate. What does it add to that?

* `Order.judgement` is the result by hand: a verdict, or the **obstacle** that stands in its way.
* `Obstacle.report?` is the error that an obstacle is reported with, and `Obstacle.ending` is the
  fault that the command ends with: that of the obstacle, or that of a console which cannot draw the
  report.
* `Command.validate_eq` is the command in **closed form**: its outcome is the judgement, and its
  trace is the one of the gate between what is shown before and after it. Everything that is shown
  besides reports has our own tags only, so that no console is in the way.
* `Command.panels_course_ne_nil_iff` says that the trace has a panel for a verdict and for nothing
  else.
-/

namespace JenkinsAdmission

/-! ## Obstacles -/

/-- What stands in the way of a verdict. -/
inductive Obstacle
  /-- a manifest is not loaded -/
  | manifest (fault : ManifestFault)
  /-- no cluster is reached -/
  | cluster (fault : ClusterFault)
  /-- validation has no verdict -/
  | store (fault : LookupFault)
  deriving DecidableEq

namespace Obstacle

/-- An obstacle as a fault of the command. -/
def fault : Obstacle → CommandFault
  | manifest fault => .ofManifest fault
  | cluster fault => .ofCluster fault
  | store fault => .ofLookup fault

/-- Whether it is the cluster or the store that failed, with a fault of theirs. -/
def isOperational : Obstacle → Bool
  | manifest _ => false
  | cluster (.podConfiguration _) => true
  | cluster (.contextConfiguration _) => true
  | cluster .cancelled => false
  | cluster (.broken _) => false
  | store (.broken _) => false
  | store _ => true

/-- The error that an obstacle is reported with, if it is. -/
def report? : Obstacle → Option Text
  | manifest _ => none
  | cluster fault => fault.message?.map ("Cluster connection failed: " ++ ·)
  | store fault => fault.message?.map ("Secret store error: " ++ ·)

/-- What the command shows about an obstacle. -/
def notice (obstacle : Obstacle) : Trace :=
  obstacle.report?.toList.map fun body => .displayed (.message .error body)

/-- Those faults are reported that are operational. -/
theorem isSome_report? (obstacle : Obstacle) :
    obstacle.report?.isSome = obstacle.isOperational := by
  rcases obstacle with fault | fault | fault
  · rfl
  · cases fault <;> rfl
  · cases fault <;> rfl

section

variable [Platform]

/-- The console can draw what is shown about an obstacle. -/
def isDrawn (obstacle : Obstacle) : Bool :=
  obstacle.report?.all fun body => (Display.message .error body).isDrawn

/-- The fault that the command ends with where it meets an obstacle. -/
def ending (obstacle : Obstacle) : CommandFault :=
  if obstacle.isDrawn then obstacle.fault else .broken .undrawable

/-- What is not reported need not be drawn. -/
theorem ending_of_not_isOperational {obstacle : Obstacle} (h : obstacle.isOperational = false) :
    obstacle.ending = obstacle.fault := by
  rw [← isSome_report?, Option.isSome_eq_false_iff, Option.isNone_iff_eq_none] at h
  rw [ending, isDrawn, h, Option.all_none, if_pos rfl]

end

end Obstacle

/-! ## Panels and lookups -/

/-- The panels among what was shown. -/
def Trace.panels (t : Trace) : List Panel :=
  t.console.filterMap fun
    | .panel p => some p
    | _ => none

namespace Trace

@[simp] theorem panels_nil : panels [] = [] := rfl

@[simp] theorem panels_append (s t : Trace) : panels (s ++ t) = panels s ++ panels t := by
  simp [panels]

/-- Neither a lookup nor a panel. -/
def Quiet (t : Trace) : Prop :=
  t.lookups = [] ∧ t.panels = []

theorem Quiet.append {s t : Trace} (hs : s.Quiet) (ht : t.Quiet) : (s ++ t).Quiet := by
  refine ⟨?_, ?_⟩
  · rw [lookups_append, hs.1, ht.1, List.append_nil]
  · rw [panels_append, hs.2, ht.2, List.append_nil]

/-- Quiet steps make a quiet run. -/
theorem quiet_bind {ε α β : Type} {m : Run ε α} {f : α → Run ε β} (hm : m.trace.Quiet)
    (hf : ∀ a, (f a).trace.Quiet) : (m >>= f).trace.Quiet := by
  rw [Run.trace_bind]
  cases m.outcome with
  | ok a => exact hm.append (hf a)
  | error e => exact hm.append ⟨rfl, rfl⟩

/-- An attempt only calls. -/
theorem quiet_attempt (call : ClusterCall) (failure : Option Text) (fault : Text → ClusterFault) :
    (Surroundings.attempt call failure fault).trace.Quiet := by
  cases failure <;> exact ⟨rfl, rfl⟩

end Trace

theorem Obstacle.quiet_notice (obstacle : Obstacle) : obstacle.notice.Quiet := by
  rw [notice]
  cases obstacle.report? <;> exact ⟨rfl, rfl⟩

/-! ## What is said besides reports -/

namespace Command

theorem isOwn_offline (path : Text) :
    Markup.IsOwn ("Validating offline against secrets from " ++ Markup.highlight path) :=
  Markup.IsPlain.isOwn_append (by decide) (Markup.isOwn_highlight path)

theorem isOwn_validating (j : Jenkins) :
    Markup.IsOwn ("Validating " ++ Markup.highlight j.coordinate.path) :=
  Markup.IsPlain.isOwn_append (by decide) (Markup.isOwn_highlight _)

theorem isOwn_spinner : (Display.spinner "Checking seed jobs and backup credentials...").IsOwn :=
  Display.isOwn_spinner (by decide)

/-- The panel has a title of our own, and escapes what it says about the resource. -/
theorem isOwn_summary (j : Jenkins) (ok : Bool) : (Display.panel (summary j ok)).IsOwn := by
  have htitle : Markup.IsPlain "Pre-flight Validation" := by decide
  refine Display.isOwn_panel htitle ?_
  simp only [summary, List.forall_mem_cons]
  exact ⟨by decide, by decide, by decide, by decide, List.forall_mem_nil _⟩

theorem isOwn_conclusion (j : Jenkins) {words : Text} (h : Markup.IsPlain words) :
    Markup.IsOwn (Markup.highlight j.name ++ words) :=
  Markup.isOwn_highlight_append j.name h.isOwn

end Command

/-! ## What the library makes of an order -/

section

variable [Platform]

namespace Order

variable (o : Order) (h : Host)

/-- The resource of an order. -/
def resource : Except Obstacle Jenkins :=
  (Manifest.loadJenkins o.defaultNamespace o.manifest (h.files o.manifest)).mapError .manifest

/-- The store of an order for a resource in a namespace. -/
def store (ns : Text) : Except Obstacle Store :=
  match o.secrets with
  | some path =>
    ((Manifest.loadSecrets ns path (h.files path)).map Secrets.store).mapError .manifest
  | none =>
    ((Cluster.connect o.select o.inCluster h.surroundings).outcome.map fun _ =>
      h.surroundings.api.store).mapError .cluster

/-- The validation of a resource against a store. -/
def validation (store : Store) (j : Jenkins) : Run LookupFault Bool :=
  Gate.validate ⟨o.full, o.operatorName⟩ h.environment store j

/-- The verdict on the resource of an order. -/
def judgement : Except Obstacle Bool := do
  let j ← o.resource h
  let store ← o.store h j.ns
  (o.validation h store j).outcome.mapError .store

/-- The library comes as far as to a resource and a store. -/
structure Opens (j : Jenkins) (s : Store) : Prop where
  /-- the resource is loaded -/
  loaded : o.resource h = .ok j
  /-- the store is opened for its namespace -/
  opened : o.store h j.ns = .ok s

/-- An obstacle comes first. -/
inductive FailsWith (obstacle : Obstacle) : Prop
  /-- the resource is not loaded -/
  | unloaded (hresource : o.resource h = .error obstacle)
  /-- the store is not opened -/
  | unopened {j : Jenkins} (hresource : o.resource h = .ok j)
    (hstore : o.store h j.ns = .error obstacle)

variable {o h}

/-- An order that opens a store is judged by the validation against it. -/
theorem Opens.judgement_eq {j : Jenkins} {s : Store} (hopens : o.Opens h j s) :
    o.judgement h = (o.validation h s j).outcome.mapError .store := by
  rw [judgement, hopens.loaded, Except.ok_bind, hopens.opened, Except.ok_bind]

/-- An order that comes to an obstacle is judged by nothing else. -/
theorem FailsWith.judgement_eq {obstacle : Obstacle} (hfails : o.FailsWith h obstacle) :
    o.judgement h = .error obstacle := by
  cases hfails with
  | unloaded hresource => rw [judgement, hresource, Except.error_bind]
  | unopened hresource hstore =>
    rw [judgement, hresource, Except.ok_bind, hstore, Except.error_bind]

variable (o h)

/-- Whatever an order is for, the library opens a store for a resource, or an obstacle comes
first. -/
theorem opens_or_failsWith :
    (∃ j s, o.Opens h j s) ∨ ∃ obstacle, o.FailsWith h obstacle := by
  cases hresource : o.resource h with
  | error obstacle => exact .inr ⟨obstacle, .unloaded hresource⟩
  | ok j =>
    cases hstore : o.store h j.ns with
    | error obstacle => exact .inr ⟨obstacle, .unopened hresource hstore⟩
    | ok s => exact .inl ⟨j, s, hresource, hstore⟩

end Order

/-! ## What the command adds to it -/

namespace Command

/-- What happens while the store is opened. -/
def opening (h : Host) (o : Order) : Trace :=
  match o.secrets with
  | some path =>
    [.displayed (.message .info
      ("Validating offline against secrets from " ++ Markup.highlight path))]
  | none => (Cluster.connect o.select o.inCluster h.surroundings).trace

/-- What is shown before the gate is asked. -/
def announcement (j : Jenkins) : Trace :=
  [.displayed (.message .action ("Validating " ++ Markup.highlight j.coordinate.path)),
    .displayed (.spinner "Checking seed jobs and backup credentials...")]

/-- What is shown after the gate has answered. -/
def closing (j : Jenkins) : Except LookupFault Bool → Trace
  | .ok ok =>
    [.displayed (.panel (summary j ok)),
      .displayed (if ok then .message .success (Markup.highlight j.name ++ " is safe to reconcile")
        else .message .error (Markup.highlight j.name ++ " has an invalid configuration"))]
  | .error fault => (Obstacle.store fault).notice

/-- What the command does for an order. -/
def course (h : Host) (o : Order) : Trace :=
  match o.resource h with
  | .error _ => []
  | .ok j =>
    match o.store h j.ns with
    | .error obstacle => opening h o ++ obstacle.notice
    | .ok store =>
      opening h o ++ announcement j ++ (o.validation h store j).trace
        ++ closing j (o.validation h store j).outcome

/-- A report ends with its fault or with that of the console. -/
theorem report_eq {α : Type} (introduction : Text) (message : Option Text) (fault : CommandFault) :
    (report introduction message fault : Run CommandFault α) =
      ⟨.error (if (message.map (introduction ++ ·)).all fun body =>
          (Display.message .error body).isDrawn then fault else .broken .undrawable),
        (message.map (introduction ++ ·)).toList.map fun body =>
          .displayed (.message .error body)⟩ := by
  cases message with
  | none => rfl
  | some words =>
    simp only [report, Run.say, Run.display, Option.map_some, Option.all_some]
    split <;> rfl

/-- A fault of a cluster is noticed and ends the run. -/
theorem reportCluster_eq {α : Type} (fault : ClusterFault) :
    (reportCluster fault : Run CommandFault α) =
      ⟨.error (Obstacle.cluster fault).ending, (Obstacle.cluster fault).notice⟩ :=
  report_eq ..

/-- A fault of a lookup is noticed and ends the run. -/
theorem reportLookup_eq {α : Type} (fault : LookupFault) :
    (reportLookup fault : Run CommandFault α) =
      ⟨.error (Obstacle.store fault).ending, (Obstacle.store fault).notice⟩ :=
  report_eq ..

/-- Opening a store announces the same thing whether there is one or not. -/
theorem openStore_eq (h : Host) (o : Order) (ns : Text) :
    openStore h o ns =
      match o.store h ns with
      | .ok store => ⟨.ok store, opening h o⟩
      | .error obstacle => ⟨.error obstacle.ending, opening h o ++ obstacle.notice⟩ := by
  unfold openStore Order.store opening
  cases o.secrets with
  | some path =>
    simp only [Run.say_of_isOwn .info (isOwn_offline path), load, Run.ofExcept, Run.map_mk]
    cases Manifest.loadSecrets ns path (h.files path) <;> rfl
  | none =>
    simp only [Run.handle]
    cases (Cluster.connect o.select o.inCluster h.surroundings).outcome with
    | ok cluster => simp
    | error fault => simp [reportCluster_eq]

/-- The gate, with what is shown around it. -/
theorem askGate_eq (h : Host) (o : Order) (store : Store) (j : Jenkins) :
    (do
      Run.say .action ("Validating " ++ Markup.highlight j.coordinate.path)
      let ok ← (askGate h o store j).handle reportLookup
      sumUp j ok
      pure ok) =
      (⟨(o.validation h store j).outcome.mapError fun fault => (Obstacle.store fault).ending,
        announcement j ++ (o.validation h store j).trace
          ++ closing j (o.validation h store j).outcome⟩ : Run CommandFault Bool) := by
  -- the summary and the words under it are our own, so both can be drawn
  have hsummed : ∀ ok, sumUp j ok = (⟨.ok (), closing j (.ok ok)⟩ : Run CommandFault Unit) := by
    intro ok
    rw [sumUp, Run.display_of_isOwn (isOwn_summary j ok)]
    cases ok with
    | true =>
      rw [if_pos rfl, Run.say_of_isOwn .success (isOwn_conclusion j (by decide))]
      rfl
    | false =>
      rw [if_neg Bool.false_ne_true, Run.say_of_isOwn .error (isOwn_conclusion j (by decide))]
      rfl
  simp only [Run.say_of_isOwn .action (isOwn_validating j), askGate,
    Run.display_of_isOwn isOwn_spinner, Run.mk_ok_bind, Run.handle, Order.validation, announcement]
  cases (Gate.validate ⟨o.full, o.operatorName⟩ h.environment store j).outcome with
  | error fault => simp [reportLookup_eq, closing]
  | ok ok => simp [hsummed]

/-- The command in closed form. -/
theorem validate_eq (h : Host) (o : Order) :
    validate h o = ⟨(o.judgement h).mapError Obstacle.ending, course h o⟩ := by
  unfold validate course Order.judgement load Order.resource
  cases Manifest.loadJenkins o.defaultNamespace o.manifest (h.files o.manifest) with
  | error fault => rfl
  | ok j =>
    simp only [Except.mapError_ok, Except.ok_bind, Run.ofExcept, Run.mk_ok_bind, openStore_eq]
    cases o.store h j.ns with
    | error obstacle => simp
    | ok store =>
      simp only [Run.mk_ok_bind, askGate_eq, Except.ok_bind]
      cases (o.validation h store j).outcome <;> simp

end Command

/-! ## Panels and lookups of the command -/

namespace Trace

theorem quiet_say {ε : Type} [BreaksDown ε] (level : Level) (body : Text) :
    (Run.say level body : Run ε Unit).trace.Quiet :=
  ⟨rfl, rfl⟩

/-- Asking for a context is quiet. -/
theorem quiet_askContext (s : Surroundings) (contexts : Contexts) :
    (s.askContext contexts).trace.Quiet := by
  refine quiet_bind ⟨rfl, rfl⟩ fun _ => ?_
  cases s.choice with
  | some name => exact ⟨rfl, rfl⟩
  | none => exact quiet_bind (quiet_say ..) fun _ => ⟨rfl, rfl⟩

theorem quiet_currentContext (contexts : Contexts) :
    (Surroundings.currentContext contexts).trace.Quiet := by
  unfold Surroundings.currentContext
  cases contexts.current.written <;> exact ⟨rfl, rfl⟩

/-- On the way to a cluster no secret is looked up. -/
theorem quiet_connect (select inside : Bool) (s : Surroundings) :
    (Cluster.connect select inside s).trace.Quiet := by
  have hload : ∀ context, (do
      Run.say .action ("Working with " ++ Markup.highlight context ++ " cluster")
      Surroundings.attempt (.loadContext context) s.contextFailure .contextConfiguration
      pure (⟨context⟩ : Cluster)).trace.Quiet := by
    intro context
    exact quiet_bind (quiet_say ..) fun _ => quiet_bind (quiet_attempt ..) fun _ => ⟨rfl, rfl⟩
  cases inside with
  | true =>
    exact quiet_bind (quiet_attempt ..) fun _ => quiet_bind (quiet_say ..) fun _ => ⟨rfl, rfl⟩
  | false =>
    have hlist : s.listContexts.trace.Quiet := quiet_bind ⟨rfl, rfl⟩ fun _ => ⟨rfl, rfl⟩
    refine quiet_bind hlist fun contexts => ?_
    cases select with
    | true => exact quiet_bind (quiet_askContext s contexts) hload
    | false => exact quiet_bind (quiet_currentContext contexts) hload

end Trace

/-- No panel is shown and nothing is looked up before there is a store. -/
theorem Command.quiet_opening (h : Host) (o : Order) : (Command.opening h o).Quiet := by
  unfold Command.opening
  cases o.secrets with
  | some path => exact ⟨rfl, rfl⟩
  | none => exact Trace.quiet_connect ..

/-- The gate shows no panel, whatever it finds. -/
theorem Gate.panels_validate (g : Gate) (environment : Option Text) (store : Store) (j : Jenkins) :
    (g.validate environment store j).trace.panels = [] := by
  have hjobs : (j.seedJobSteps store).panels = [] := by
    simp [Trace.panels, List.filterMap_flatMap, List.filterMap_map, Complaint.warning]
  have hbackup : ∀ operator, (j.backupSteps store operator).panels = [] := by
    intro operator
    simp [Trace.panels, List.filterMap_map, Complaint.warning]
  rcases validate_cases g environment store j with ⟨_, -, h⟩ | ⟨-, -, h⟩ | ⟨-, -, -, h⟩
  · rw [h, hjobs]
  · rw [h, Trace.panels_append, hjobs, hbackup, List.append_nil]
  · rw [h, hjobs]

/-! ## The two courses -/

namespace Command

variable {h : Host} {o : Order}

/-- A run with a store: the opening, the announcement, the validation and the close. -/
theorem course_of_opens {j : Jenkins} {store : Store} (hopens : o.Opens h j store) :
    course h o = opening h o ++ announcement j ++ (o.validation h store j).trace
      ++ closing j (o.validation h store j).outcome := by
  rw [course, hopens.loaded]
  simp only [hopens.opened]

/-- A run that comes to an obstacle before the validation shows no panel and looks nothing up. -/
theorem quiet_course_of_failsWith {obstacle : Obstacle} (hfails : o.FailsWith h obstacle) :
    (course h o).Quiet := by
  unfold course
  cases hfails with
  | unloaded hresource =>
    rw [hresource]
    exact ⟨rfl, rfl⟩
  | unopened hresource hstore =>
    rw [hresource]
    simp only [hstore]
    exact (quiet_opening h o).append obstacle.quiet_notice

omit [Platform] in
/-- Only a verdict is summed up. -/
theorem panels_closing (j : Jenkins) (outcome : Except LookupFault Bool) :
    (closing j outcome).panels =
      match outcome with
      | .ok ok => [summary j ok]
      | .error _ => [] := by
  cases outcome with
  | ok ok => cases ok <;> rfl
  | error fault => exact (Obstacle.store fault).quiet_notice.2

omit [Platform] in
/-- The close of a run looks nothing up. -/
theorem lookups_closing (j : Jenkins) (outcome : Except LookupFault Bool) :
    (closing j outcome).lookups = [] := by
  cases outcome with
  | ok ok => cases ok <;> rfl
  | error fault => exact (Obstacle.store fault).quiet_notice.1

theorem quiet_announced (h : Host) (o : Order) (j : Jenkins) :
    (opening h o ++ announcement j).Quiet :=
  (quiet_opening h o).append ⟨rfl, rfl⟩

/-- All the panels of a run stand at its close. -/
theorem panels_course_of_opens {j : Jenkins} {store : Store} (hopens : o.Opens h j store) :
    (course h o).panels = (closing j (o.validation h store j).outcome).panels := by
  rw [course_of_opens hopens, Trace.panels_append, Trace.panels_append, (quiet_announced h o j).2,
    Order.validation, Gate.panels_validate, List.nil_append, List.nil_append]

/-- The command shows a panel if and only if the library reaches a verdict. -/
theorem panels_course_ne_nil_iff (h : Host) (o : Order) :
    (course h o).panels ≠ [] ↔ ∃ ok, o.judgement h = .ok ok := by
  rcases o.opens_or_failsWith h with ⟨j, store, hopens⟩ | ⟨obstacle, hfails⟩
  · rw [panels_course_of_opens hopens, hopens.judgement_eq, panels_closing]
    cases (o.validation h store j).outcome with
    | ok ok => simp
    | error fault => simp
  · rw [(quiet_course_of_failsWith hfails).2, hfails.judgement_eq]
    simp

end Command

end

end JenkinsAdmission
