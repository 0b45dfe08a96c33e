import JenkinsAdmission.Cluster
import JenkinsAdmission.Proofs.Gate.Course
import JenkinsAdmission.Proofs.Value

/-!
# The way to a cluster

Reaching for a cluster takes steps, and some of them may fail. Which steps are taken, and what comes
of them?

* `Surroundings.route` is the list of steps for which there is a reason: inside a pod the loading of
  its configuration, and elsewhere the listing of contexts, the question if a person selects, and
  the loading of the one context in question.
* `Cluster.Way` lists all that reaching for a cluster can come to, and `Cluster.way_connect` says
  that it comes to one of these.
* What all of them have in common is read off that list: the steps are those of the route, a step
  that stops is the last one, and a context is announced right before it is loaded.
-/

namespace JenkinsAdmission

/-! ## Routes -/

namespace Surroundings

variable (s : Surroundings)

/-- The fault with which a step ends the way: a configuration that cannot be listed or loaded, or a
question that nobody answers. -/
def stop? : ClusterCall → Option ClusterFault
  | .listContexts =>
    match s.contexts with
    | .error detail => some (.contextConfiguration detail)
    | .ok _ => none
  | .ask _ => if s.choice.isNone then some .cancelled else none
  | .loadContext _ => s.contextFailure.map .contextConfiguration
  | .loadInCluster => s.podFailure.map .podConfiguration

variable [Platform]

/-- The context in question: the one that a person chooses, or the current one. -/
def contextFor? (select : Bool) : Option Text :=
  match s.contexts with
  | .error _ => none
  | .ok contexts => if select then s.choice else contexts.current.written?

/-- The steps towards a cluster, as far as each gives reason for the next. -/
def route (select inside : Bool) : List ClusterCall :=
  if inside then [.loadInCluster]
  else
    match s.contexts with
    | .error _ => [.listContexts]
    | .ok contexts =>
      .listContexts :: (if select then [.ask (question contexts)] else [])
        ++ (s.contextFor? select).toList.map .loadContext

end Surroundings

/-- Whether a step loads a configuration. -/
def ClusterCall.loads : ClusterCall → Bool
  | .loadContext _ => true
  | .loadInCluster => true
  | _ => false

/-! ## What reaching for a cluster comes to -/

namespace Cluster

/-- What is shown before a context is loaded. -/
def announced (context : Text) : Event :=
  .displayed (.message .action ("Working with " ++ Markup.highlight context ++ " cluster"))

/-- The question that is asked if a person selects. -/
def asking (select : Bool) (contexts : Contexts) : Trace :=
  if select then [.called (.ask (Surroundings.question contexts))] else []

section

variable [Platform]

/-- All that reaching for a cluster can come to. -/
inductive Way (s : Surroundings) : Bool → Bool → Run ClusterFault Cluster → Prop
  /-- the configuration of the pod cannot be loaded -/
  | podFailed {select : Bool} (detail : Text) (hfailure : s.podFailure = some detail) :
    Way s select true ⟨.error (.podConfiguration detail), [.called .loadInCluster]⟩
  /-- the configuration of the pod is loaded -/
  | podLoaded {select : Bool} (hfailure : s.podFailure = none) :
    Way s select true ⟨.ok ⟨"in-cluster"⟩, [.called .loadInCluster,
      .displayed (.message .action "Working with the in-cluster configuration")]⟩
  /-- the contexts cannot be listed -/
  | unlisted {select : Bool} (detail : Text) (hcontexts : s.contexts = .error detail) :
    Way s select false ⟨.error (.contextConfiguration detail), [.called .listContexts]⟩
  /-- nobody chooses a context -/
  | cancelled (contexts : Contexts) (hcontexts : s.contexts = .ok contexts)
    (hchoice : s.choice = none) :
    Way s true false ⟨.error .cancelled, .called .listContexts :: (asking true contexts ++
      [.displayed (.message .warning "Context selection cancelled.")])⟩
  /-- the name of the current context cannot be written -/
  | unwritten (contexts : Contexts) (cause : Breakdown) (hcontexts : s.contexts = .ok contexts)
    (hcurrent : contexts.current.written = .error cause) :
    Way s false false ⟨.error (.broken cause), [.called .listContexts]⟩
  /-- the context cannot be loaded -/
  | contextFailed {select : Bool} (contexts : Contexts) (name detail : Text)
    (hcontexts : s.contexts = .ok contexts) (hname : s.contextFor? select = some name)
    (hfailure : s.contextFailure = some detail) :
    Way s select false ⟨.error (.contextConfiguration detail), .called .listContexts ::
      (asking select contexts ++ [announced name, .called (.loadContext name)])⟩
  /-- the context is loaded -/
  | contextLoaded {select : Bool} (contexts : Contexts) (name : Text)
    (hcontexts : s.contexts = .ok contexts) (hname : s.contextFor? select = some name)
    (hfailure : s.contextFailure = none) :
    Way s select false ⟨.ok ⟨name⟩, .called .listContexts ::
      (asking select contexts ++ [announced name, .called (.loadContext name)])⟩

omit [Platform] in
/-- There are no tags in what is said about a pod. -/
theorem isPlain_inside : Markup.IsPlain "Working with the in-cluster configuration" := by decide

/-- The cluster that the program runs in is reached in one of the ways. -/
theorem way_connectInside (s : Surroundings) (select : Bool) :
    Way s select true (connectInside s) := by
  have hsay := Run.say_of_isOwn (ε := ClusterFault) .action (isPlain_inside.isOwn)
  unfold connectInside Surroundings.attempt
  rw [hsay]
  cases hfailure : s.podFailure with
  | none => exact .podLoaded hfailure
  | some detail => exact .podFailed detail hfailure

omit [Platform] in
/-- Contexts that there are can be listed with one call. -/
theorem listContexts_eq {s : Surroundings} {contexts : Contexts}
    (hcontexts : s.contexts = .ok contexts) :
    s.listContexts = ⟨.ok contexts, [.called .listContexts]⟩ := by
  rw [Surroundings.listContexts, hcontexts]
  rfl

/-- What is left to do once the context is known. -/
def enter (s : Surroundings) (context : Text) : Run ClusterFault Cluster := do
  Run.say .action ("Working with " ++ Markup.highlight context ++ " cluster")
  Surroundings.attempt (.loadContext context) s.contextFailure .contextConfiguration
  pure ⟨context⟩

/-- A context that was settled on is entered, after what it took to settle on it. -/
theorem way_enter {s : Surroundings} {select : Bool} {contexts : Contexts} {name : Text}
    (hcontexts : s.contexts = .ok contexts) (hname : s.contextFor? select = some name) :
    Way s select false
      ⟨(enter s name).outcome,
        .called .listContexts :: (asking select contexts ++ (enter s name).trace)⟩ := by
  have hown : Markup.IsOwn ("Working with " ++ Markup.highlight name ++ " cluster") := by
    rw [List.append_assoc]
    exact Markup.isOwn_naming (by decide) name (Markup.IsPlain.isOwn (by decide))
  unfold enter Surroundings.attempt
  rw [Run.say_of_isOwn .action hown]
  cases hfailure : s.contextFailure with
  | none => exact .contextLoaded contexts name hcontexts hname hfailure
  | some detail => exact .contextFailed contexts name detail hcontexts hname hfailure

/-- The cluster of a context is reached in one of the ways. -/
theorem way_connectContext (s : Surroundings) (select : Bool) :
    Way s select false (connectContext select s) := by
  cases hcontexts : s.contexts with
  | error detail =>
    rw [connectContext, Surroundings.listContexts, hcontexts]
    exact .unlisted detail hcontexts
  | ok contexts =>
    rw [connectContext, listContexts_eq hcontexts, Run.mk_ok_bind]
    cases select with
    -- the user chooses
    | true =>
      cases hchoice : s.choice with
      | none =>
        have hown : Markup.IsOwn "Context selection cancelled." :=
          Markup.IsPlain.isOwn (by decide)
        simp only [if_true, Surroundings.askContext, hchoice, Run.say_of_isOwn .warning hown]
        exact .cancelled contexts hcontexts hchoice
      | some name =>
        have hasked : s.askContext contexts = ⟨.ok name, asking true contexts⟩ := by
          rw [Surroundings.askContext, hchoice]
          rfl
        rw [if_pos rfl, hasked, Run.mk_ok_bind]
        exact way_enter hcontexts (by simpa only [Surroundings.contextFor?, hcontexts])
    -- nobody is asked, so the current context is taken
    | false =>
      cases hcurrent : contexts.current.written with
      | error cause =>
        simp only [Bool.false_eq_true, if_false, Surroundings.currentContext, hcurrent]
        exact .unwritten contexts cause hcontexts hcurrent
      | ok name =>
        have hfound : Surroundings.currentContext contexts = ⟨.ok name, asking false contexts⟩ := by
          rw [Surroundings.currentContext, hcurrent]
          rfl
        have hname : s.contextFor? false = some name := by
          simpa [Surroundings.contextFor?, hcontexts] using Value.written?_eq_some_iff.mpr hcurrent
        rw [if_neg Bool.false_ne_true, hfound, Run.mk_ok_bind]
        exact way_enter hcontexts hname

/-- Reaching for a cluster comes to nothing else. -/
theorem way_connect (s : Surroundings) (select inside : Bool) :
    Way s select inside (connect select inside s) := by
  cases inside with
  | true => exact way_connectInside s select
  | false => exact way_connectContext s select

end

end Cluster

/-! ## What all of this has in common -/

namespace Trace

@[simp] theorem calls_nil : calls [] = [] := rfl

@[simp] theorem calls_cons_called (call : ClusterCall) (t : Trace) :
    calls (.called call :: t) = call :: calls t := rfl

@[simp] theorem calls_cons_displayed (d : Display) (t : Trace) :
    calls (.displayed d :: t) = calls t := rfl

@[simp] theorem calls_cons_lookedUp (source : Source) (c : Coordinate) (t : Trace) :
    calls (.lookedUp source c :: t) = calls t := rfl

end Trace

namespace Cluster

variable [Platform] {s : Surroundings} {select inside : Bool} {r : Run ClusterFault Cluster}

omit [Platform] in
/-- The user is asked only where a context is to be selected. -/
@[simp] theorem calls_asking (select : Bool) (contexts : Contexts) :
    (asking select contexts).calls =
      if select then [.ask (Surroundings.question contexts)] else [] := by
  cases select <;> rfl

omit [Platform] in
@[simp] theorem calls_announced (context : Text) (t : Trace) :
    Trace.calls (announced context :: t) = t.calls := rfl

/-- The steps are those of the route. -/
theorem Way.calls_eq (h : Way s select inside r) : r.trace.calls = s.route select inside := by
  cases h with
  | podFailed detail hfailure => rfl
  | podLoaded hfailure => rfl
  | unlisted detail hcontexts => simp [Surroundings.route, hcontexts]
  | cancelled contexts hcontexts hchoice =>
    simp [Surroundings.route, Surroundings.contextFor?, hcontexts, hchoice]
  | unwritten contexts cause hcontexts hcurrent =>
    have hnone : contexts.current.written? = none :=
      Value.written?_eq_none_iff.mpr ⟨cause, hcurrent⟩
    simp [Surroundings.route, Surroundings.contextFor?, hcontexts, hnone]
  | contextFailed contexts name detail hcontexts hname hfailure =>
    simp [Surroundings.route, hcontexts, hname]
  | contextLoaded contexts name hcontexts hname hfailure =>
    simp [Surroundings.route, hcontexts, hname]

/-- The steps before the one that loads a context do not stop. -/
theorem stop?_of_contextFor? {contexts : Contexts} {name : Text}
    (hcontexts : s.contexts = .ok contexts) (hname : s.contextFor? select = some name) :
    ∀ call ∈ ClusterCall.listContexts ::
        (if select then [.ask (Surroundings.question contexts)] else []),
      s.stop? call = none := by
  intro call hcall
  rcases List.mem_cons.mp hcall with rfl | hcall
  · simp [Surroundings.stop?, hcontexts]
  · cases select with
    | true =>
      obtain rfl := List.mem_singleton.mp hcall
      have hchoice : s.choice = some name := by
        simpa [Surroundings.contextFor?, hcontexts] using hname
      simp [Surroundings.stop?, hchoice]
    | false => cases hcall

/-- Only the last step may stop, and then the way ends with its fault. A cluster is reached by a
last step that loads and does not stop. -/
theorem Way.exists_last (h : Way s select inside r) :
    ∃ earlier last, r.trace.calls = earlier ++ [last] ∧
      (∀ call ∈ earlier, s.stop? call = none) ∧
      (∀ fault, s.stop? last = some fault → r.outcome = .error fault) ∧
      ∀ cluster, r.outcome = .ok cluster → s.stop? last = none ∧ last.loads = true := by
  cases h with
  | podFailed detail hfailure =>
    exact ⟨[], .loadInCluster, rfl, nofun, by simp [Surroundings.stop?, hfailure], nofun⟩
  | podLoaded hfailure =>
    exact ⟨[], .loadInCluster, rfl, nofun, by simp [Surroundings.stop?, hfailure],
      fun _ _ => ⟨by simp [Surroundings.stop?, hfailure], rfl⟩⟩
  | unlisted detail hcontexts =>
    exact ⟨[], .listContexts, rfl, nofun, by simp [Surroundings.stop?, hcontexts], nofun⟩
  -- the listing succeeded, and what stops the run is the answer
  | cancelled contexts hcontexts hchoice =>
    refine ⟨[.listContexts], .ask (Surroundings.question contexts), by simp, ?_,
      by simp [Surroundings.stop?, hchoice], nofun⟩
    intro call hcall
    rw [List.mem_singleton.mp hcall]
    simp [Surroundings.stop?, hcontexts]
  | unwritten contexts cause hcontexts hcurrent =>
    exact ⟨[], .listContexts, rfl, nofun, by simp [Surroundings.stop?, hcontexts], nofun⟩
  -- a context was settled on, so neither the listing nor the question stopped the run
  | contextFailed contexts name detail hcontexts hname hfailure =>
    exact ⟨_, .loadContext name, by simp, stop?_of_contextFor? hcontexts hname,
      by simp [Surroundings.stop?, hfailure], nofun⟩
  | contextLoaded contexts name hcontexts hname hfailure =>
    exact ⟨_, .loadContext name, by simp, stop?_of_contextFor? hcontexts hname,
      by simp [Surroundings.stop?, hfailure],
      fun _ _ => ⟨by simp [Surroundings.stop?, hfailure], rfl⟩⟩

/-- A step that stops is the last one. -/
theorem Way.stopped (h : Way s select inside r) {before after : List ClusterCall}
    {call : ClusterCall} {fault : ClusterFault} (hcalls : r.trace.calls = before ++ call :: after)
    (hstop : s.stop? call = some fault) : after = [] ∧ r.outcome = .error fault := by
  obtain ⟨earlier, last, hlast, hearlier, hfault, -⟩ := h.exists_last
  rw [hlast] at hcalls
  rcases List.eq_nil_or_concat after with rfl | ⟨rest, other, rfl⟩
  · obtain ⟨-, hsame⟩ := List.append_inj' hcalls rfl
    obtain rfl : last = call := (List.cons.inj hsame).1
    exact ⟨rfl, hfault fault hstop⟩
  · -- with a step after it, it is one of the earlier ones
    rw [List.concat_eq_append, ← List.cons_append, ← List.append_assoc] at hcalls
    obtain ⟨hsame, -⟩ := List.append_inj' hcalls rfl
    rw [hearlier call (by rw [hsame]; simp)] at hstop
    cases hstop

/-- A cluster is reached by steps none of which stops, and one of which loads. -/
theorem Way.loaded (h : Way s select inside r) {cluster : Cluster}
    (hreached : r.outcome = .ok cluster) :
    (∀ call ∈ r.trace.calls, s.stop? call = none) ∧
      ∃ load ∈ r.trace.calls, load.loads = true := by
  obtain ⟨earlier, last, hlast, hearlier, -, hload⟩ := h.exists_last
  obtain ⟨hstop, hloads⟩ := hload cluster hreached
  rw [hlast]
  refine ⟨?_, last, by simp, hloads⟩
  intro call hcall
  rcases List.mem_append.mp hcall with hcall | hcall
  · exact hearlier call hcall
  · rw [List.mem_singleton.mp hcall, hstop]

/-- The context that is loaded is the one in question, and it is announced right before. -/
theorem Way.announced (h : Way s select inside r) {context : Text}
    (hcall : .loadContext context ∈ r.trace.calls) :
    s.contextFor? select = some context ∧ ∃ before after,
      r.trace = before ++ announced context :: .called (.loadContext context) :: after := by
  cases h with
  | contextFailed contexts name detail hcontexts hname hfailure =>
    obtain rfl : context = name := by cases select <;> simpa using hcall
    exact ⟨hname, .called .listContexts :: asking select contexts, [], by simp⟩
  | contextLoaded contexts name hcontexts hname hfailure =>
    obtain rfl : context = name := by cases select <;> simpa using hcall
    exact ⟨hname, .called .listContexts :: asking select contexts, [], by simp⟩
  | _ => simp at hcall

/-- Outside a pod, the context that is kept is the one that was loaded. -/
theorem Way.kept (h : Way s select false r) {cluster : Cluster}
    (hreached : r.outcome = .ok cluster) :
    .loadContext cluster.context ∈ r.trace.calls := by
  cases h with
  | contextLoaded contexts name hcontexts hname hfailure =>
    obtain rfl := Except.ok.inj hreached
    simp
  | _ => cases hreached

end Cluster

end JenkinsAdmission
