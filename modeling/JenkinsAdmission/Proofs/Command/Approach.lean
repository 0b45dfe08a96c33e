import JenkinsAdmission.Proofs.Command.Refinement

/-!
# The command and the cluster

The command takes steps towards a cluster and reads secrets there. Which of its runs do so, and
when?

* `Trace.Within` holds of a trace with nothing but messages and lookups in one source. So is
  everything that the command does besides reaching for a cluster.
* `Command.Approaches` says of a run that it keeps to the route to a cluster, that it reads only at
  the end of the route, and that it stops for good where a step fails.
* `Command.Tells` says that a person can follow: the context that is loaded can be told from what is
  shown, and a step that fails from the exit code.
* `Command.run_approaches` says that every run of the command approaches a cluster in this way, and
  which runs tell. A name may end in backslashes that reach beyond it, and a console may be unable
  to draw what a configuration says about itself.
-/

namespace JenkinsAdmission

/-! ## The rest of the command -/

/-- Nothing but messages and lookups in a source. -/
def Trace.Within (source : Source) (t : Trace) : Prop :=
  ∀ e ∈ t, (∃ d, e = .displayed d) ∨ ∃ c, e = .lookedUp source c

namespace Trace

variable {source other : Source} {t u : Trace}

@[simp] theorem within_nil : Within source [] := nofun

@[simp] theorem within_cons_displayed {d : Display} :
    Within source (.displayed d :: t) ↔ t.Within source := by
  simp [Within]

theorem Within.append (ht : t.Within source) (hu : u.Within source) : (t ++ u).Within source :=
  fun e he => (List.mem_append.mp he).elim (ht e) (hu e)

/-- A trace that is put together within a source is within it. -/
theorem within_flatMap {α : Type} {l : List α} {f : α → Trace}
    (h : ∀ a ∈ l, (f a).Within source) : Within source (l.flatMap f) := by
  intro e he
  obtain ⟨a, ha, he⟩ := List.mem_flatMap.mp he
  exact h a ha e he

/-- Lookups in a source stay within it. -/
theorem within_asked (source : Source) (places : List Coordinate) :
    Within source (places.map (.lookedUp source)) := by
  intro e he
  obtain ⟨c, -, rfl⟩ := List.mem_map.mp he
  exact .inr ⟨c, rfl⟩

/-- Complaints look nothing up. -/
theorem within_shown (source : Source) (complaints : List Complaint) :
    Within source (Complaint.shown complaints) := by
  intro e he
  obtain ⟨c, -, rfl⟩ := List.mem_map.mp he
  exact .inl ⟨c.warning, rfl⟩

/-- What stays within a source calls no cluster. -/
theorem Within.calls_eq (h : t.Within source) : t.calls = [] := by
  rw [calls, List.filterMap_eq_nil_iff]
  intro e he
  rcases h e he with ⟨d, rfl⟩ | ⟨c, rfl⟩ <;> rfl

/-- What stays within a source looks nothing up in another one. -/
theorem Within.lookupsIn_eq (h : t.Within source) (hother : source ≠ other) :
    t.lookupsIn other = [] := by
  rw [lookupsIn, List.filterMap_eq_nil_iff]
  intro e he
  rcases h e he with ⟨d, rfl⟩ | ⟨c, rfl⟩
  · rfl
  · exact if_neg hother

/-- A quiet trace looks nothing up at all. -/
theorem lookupsIn_eq_nil_of_quiet (h : t.Quiet) (source : Source) : t.lookupsIn source = [] := by
  rw [lookupsIn, List.filterMap_eq_nil_iff]
  intro e he
  have hnone := List.filterMap_eq_nil_iff.mp h.1 e he
  cases e with
  | lookedUp s c => cases hnone
  | displayed d => rfl
  | called call => rfl

/-- Of a trace that starts with steps and goes on without any, what comes before a lookup includes
all of the steps. -/
theorem exists_before_lookup {steps rest before after : Trace} {c : Coordinate}
    (htrace : steps ++ rest = before ++ .lookedUp .cluster c :: after)
    (hsteps : steps.lookupsIn .cluster = []) (hrest : rest.calls = []) :
    before.calls = steps.calls ∧ after.calls = [] ∧ rest.lookupsIn .cluster ≠ [] := by
  have hlookup : ∀ t : Trace, .lookedUp .cluster c ∈ t → t.lookupsIn .cluster ≠ [] := by
    intro t hmem hnil
    simpa using List.filterMap_eq_nil_iff.mp hnil _ hmem
  rcases List.append_eq_append_iff.mp htrace with ⟨mid, rfl, rfl⟩ | ⟨mid, rfl, hmid⟩
  · simp only [calls_append, calls_cons_lookedUp, List.append_eq_nil_iff] at hrest
    refine ⟨by rw [calls_append, hrest.1, List.append_nil], hrest.2, hlookup _ (by simp)⟩
  · cases mid with
    | nil =>
      obtain rfl := hmid
      exact ⟨by rw [List.append_nil], hrest, hlookup _ (by simp)⟩
    | cons e mid =>
      -- the lookup would be one of the steps
      obtain ⟨rfl, -⟩ := List.cons.inj hmid
      exact absurd hsteps (hlookup _ (by simp))

end Trace

/-- A notice looks nothing up. -/
theorem Obstacle.within_notice (source : Source) (obstacle : Obstacle) :
    obstacle.notice.Within source := by
  rw [notice]
  cases obstacle.report? <;> simp

section

variable [Platform]

/-- The key of a seed job is looked for in the store that is given. -/
theorem SeedJob.within_steps (store : Store) (ns : Text) (job : SeedJob) :
    (job.steps store ns).Within store.source :=
  ((Trace.within_shown _ _).append (Trace.within_asked _ _)).append (Trace.within_shown _ _)

/-- The gate reads in no source but that of its store. -/
theorem Gate.within_validate (g : Gate) (environment : Option Text) (store : Store) (j : Jenkins) :
    (g.validate environment store j).trace.Within store.source := by
  have hjobs : (j.seedJobSteps store).Within store.source :=
    Trace.within_flatMap fun job _ => job.within_steps store j.ns
  rcases validate_cases g environment store j with ⟨_, -, h⟩ | ⟨-, -, h⟩ | ⟨-, -, -, h⟩
  · rwa [h]
  · rw [h]
    exact hjobs.append ((Trace.within_asked _ _).append (Trace.within_shown _ _))
  · rwa [h]

/-! ## The approach of a whole run -/

namespace Command

variable {h : Host} {o : Order}

omit [Platform] in
/-- The close of a run looks nothing up. -/
theorem within_closing (source : Source) (j : Jenkins) (outcome : Except LookupFault Bool) :
    (closing j outcome).Within source := by
  cases outcome with
  | ok ok => simp [closing]
  | error fault => exact (Obstacle.store fault).within_notice source

/-- What is done with a store, once it is open. -/
theorem within_judged (h : Host) (o : Order) (j : Jenkins) (store : Store) :
    (announcement j ++ ((o.validation h store j).trace
      ++ closing j (o.validation h store j).outcome)).Within store.source := by
  have hannouncement : (announcement j).Within store.source := by simp [announcement]
  have hvalidation := Gate.within_validate ⟨o.full, o.operatorName⟩ h.environment store j
  exact hannouncement.append (hvalidation.append (within_closing _ _ _))

/-- With secrets at hand the command stays away from clusters. -/
theorem within_course_of_some {path : Text} (hsecrets : o.secrets = some path) :
    (course h o).Within .manifests := by
  have hopening : (opening h o).Within .manifests := by simp [opening, hsecrets]
  rcases o.opens_or_failsWith h with ⟨j, store, hopens⟩ | ⟨obstacle, hfails⟩
  · have hsource : store.source = .manifests := by
      have hopened := hopens.opened
      simp only [Order.store, hsecrets, Except.mapError_eq_ok_iff, Except.map_eq_ok_iff] at hopened
      obtain ⟨secrets, -, rfl⟩ := hopened
      rfl
    rw [course_of_opens hopens, List.append_assoc, List.append_assoc]
    exact hopening.append (hsource ▸ within_judged h o j store)
  · cases hfails with
    | unloaded hresource =>
      rw [course, hresource]
      exact Trace.within_nil
    | unopened hresource hstore =>
      rw [course, hresource]
      simp only [hstore]
      exact hopening.append (obstacle.within_notice .manifests)

/-- Without secrets at hand the command reaches for a cluster, and what it does after that has to do
with the secrets there. If it does not reach one, it does not read either. -/
theorem exists_course_of_none {j : Jenkins} (hresource : o.resource h = .ok j)
    (hsecrets : o.secrets = none) :
    let reached := Cluster.connect o.select o.inCluster h.surroundings
    ∃ rest, course h o = reached.trace ++ rest ∧ rest.Within .cluster ∧
      ∀ fault, reached.outcome = .error fault →
        o.judgement h = .error (.cluster fault) ∧ rest.lookupsIn .cluster = [] := by
  intro reached
  have hopening : opening h o = reached.trace := by rw [opening, hsecrets]
  cases hreached : reached.outcome with
  | error fault =>
    have hstore : o.store h j.ns = .error (.cluster fault) := by
      simp only [Order.store, hsecrets]
      rw [hreached]
      rfl
    -- the notice about the cluster is all that follows
    refine ⟨(Obstacle.cluster fault).notice, ?_, Obstacle.within_notice _ _, ?_⟩
    · rw [course, hresource]
      simp only [hstore, hopening]
    · intro other hother
      obtain rfl := Except.error.inj hother
      exact ⟨(Order.FailsWith.unopened hresource hstore).judgement_eq,
        Trace.lookupsIn_eq_nil_of_quiet (Obstacle.quiet_notice _) _⟩
  | ok cluster =>
    have hstore : o.store h j.ns = .ok h.surroundings.api.store := by
      simp only [Order.store, hsecrets]
      rw [hreached]
      rfl
    -- what follows is judged against the store of the cluster
    refine ⟨_, ?_, within_judged h o j h.surroundings.api.store, ?_⟩
    · rw [course_of_opens ⟨hresource, hstore⟩, hopening, List.append_assoc, List.append_assoc]
    · intro fault hfault
      cases hfault

/-- A run keeps to the route to a cluster, reads at its end, and stops where a step fails. -/
structure Approaches (h : Host) (o : Order) (r : Run CommandFault Outcome) : Prop where
  /-- with secrets at hand it stays away from clusters -/
  offline : o.secrets.isSome = true → r.trace.calls = [] ∧ r.trace.lookupsIn .cluster = []
  /-- without a resource it does nothing -/
  unloaded : ∀ obstacle, o.resource h = .error obstacle → r.trace = []
  /-- otherwise it takes the steps of the route -/
  taken : ∀ j, o.resource h = .ok j → o.secrets = none →
    r.trace.calls = h.surroundings.route o.select o.inCluster
  /-- a context that is loaded is the one in question, and it is announced right before -/
  announced : ∀ context, .loadContext context ∈ r.trace.calls →
    h.surroundings.contextFor? o.select = some context ∧ ∃ before after,
      r.trace = before ++ Cluster.announced context :: .called (.loadContext context) :: after
  /-- the context that is kept is the one that was loaded -/
  kept : ∀ j cluster, o.resource h = .ok j → o.secrets = none → o.inCluster = false →
    (Cluster.connect o.select false h.surroundings).outcome = .ok cluster →
    .loadContext cluster.context ∈ r.trace.calls
  /-- nothing is read before a configuration was loaded, and no step is taken after that -/
  reads : ∀ (before : Trace) c (after : Trace), r.trace = before ++ .lookedUp .cluster c :: after →
    (∃ j, o.resource h = .ok j) ∧ (∃ load ∈ before.calls, load.loads = true) ∧
      (∀ call ∈ before.calls, h.surroundings.stop? call = none) ∧ after.calls = []
  /-- a step that stops is the last one, the run ends with its report, and nothing is read -/
  stopped : ∀ before call after fault, r.trace.calls = before ++ call :: after →
    h.surroundings.stop? call = some fault →
    after = [] ∧ r.trace.lookupsIn .cluster = [] ∧
      r.outcome = .error (Obstacle.cluster fault).ending

/-- A run tells which context it takes, and how a step failed. -/
structure Tells (h : Host) (r : Run CommandFault Outcome) : Prop where
  /-- the name of a context that is loaded stays between its tags where it is announced -/
  named : ∀ context, .loadContext context ∈ r.trace.calls → Markup.Encloses context
  /-- the exit code is 1 for a question that nobody answers, and 3 for a configuration that cannot
  be listed or loaded -/
  coded : ∀ call ∈ r.trace.calls, ∀ fault, h.surroundings.stop? call = some fault →
    exitCode r.outcome = if fault = .cancelled then 1 else 3

/-- The exit code for a step that stops. -/
theorem exitCode_of_stop?_iff {s : Surroundings} {call : ClusterCall} {fault : ClusterFault}
    (hstop : s.stop? call = some fault) :
    (exitCode (.error (Obstacle.cluster fault).ending) = if fault = .cancelled then 1 else 3) ↔
      (Obstacle.cluster fault).isDrawn = true := by
  have hbroken : ∀ cause, fault ≠ .broken cause := by
    rintro cause rfl
    cases call with
    | listContexts => cases hcontexts : s.contexts <;> simp [Surroundings.stop?, hcontexts] at hstop
    | ask prompt => simp [Surroundings.stop?] at hstop
    | loadContext name => simp [Surroundings.stop?] at hstop
    | loadInCluster => simp [Surroundings.stop?] at hstop
  rw [exitCode_ending]
  cases fault with
  | podConfiguration detail | contextConfiguration detail => simp [Obstacle.isOperational]
  | cancelled => simp [Obstacle.isOperational, Obstacle.isDrawn, Obstacle.report?,
      ClusterFault.message?]
  | broken cause => exact absurd rfl (hbroken cause)

/-- A run that approaches a cluster tells so unless a name disarms its closing tag, or a report
cannot be drawn. -/
theorem Approaches.tells_iff {r : Run CommandFault Outcome} (happroaches : Approaches h o r) :
    Tells h r ↔
      (∀ context, .loadContext context ∈ r.trace.calls → ¬Markup.DisarmsClosing context) ∧
      ∀ call ∈ r.trace.calls, ∀ fault, h.surroundings.stop? call = some fault →
        (Obstacle.cluster fault).isDrawn = true := by
  have hcode : ∀ call ∈ r.trace.calls, ∀ fault, h.surroundings.stop? call = some fault →
      ((exitCode r.outcome = if fault = .cancelled then 1 else 3) ↔
        (Obstacle.cluster fault).isDrawn = true) := by
    intro call hcall fault hstop
    obtain ⟨before, after, hcalls⟩ := List.append_of_mem hcall
    rw [(happroaches.stopped before call after fault hcalls hstop).2.2]
    exact exitCode_of_stop?_iff hstop
  constructor
  · rintro ⟨hnamed, hcoded⟩
    refine ⟨fun context hcontext => ?_, fun call hcall fault hstop => ?_⟩
    · exact (Markup.encloses_iff_not_disarmsClosing context).mp (hnamed context hcontext)
    · exact (hcode call hcall fault hstop).mp (hcoded call hcall fault hstop)
  · rintro ⟨hnamed, hdrawn⟩
    refine ⟨fun context hcontext => ?_, fun call hcall fault hstop => ?_⟩
    · exact (Markup.encloses_iff_not_disarmsClosing context).mpr (hnamed context hcontext)
    · exact (hcode call hcall fault hstop).mpr (hdrawn call hcall fault hstop)

/-- A run with a file of secrets. -/
theorem approaches_of_some {path : Text} (hsecrets : o.secrets = some path) :
    Approaches h o (answer h o) := by
  have hwithin : (course h o).Within .manifests := within_course_of_some hsecrets
  have hcalls : (course h o).calls = [] := hwithin.calls_eq
  have hlookups : (course h o).lookupsIn .cluster = [] := hwithin.lookupsIn_eq nofun
  refine ⟨fun _ => ⟨hcalls, hlookups⟩, ?_, ?_, ?_, ?_, ?_, ?_⟩
  · intro obstacle hresource
    rw [answer, course, hresource]
  · intro j _ hnone
    rw [hsecrets] at hnone
    cases hnone
  · intro context hmem
    rw [answer, hcalls] at hmem
    cases hmem
  · intro j cluster _ hnone
    rw [hsecrets] at hnone
    cases hnone
  · -- no lookup in a file is one in a cluster
    intro before c after htrace
    have hmem : .lookedUp .cluster c ∈ course h o := by
      rw [show course h o = _ from htrace]
      simp
    rcases hwithin _ hmem with ⟨d, hd⟩ | ⟨other, hother⟩
    · cases hd
    · cases hother
  · intro before call after fault htrace
    rw [answer, hcalls] at htrace
    simp at htrace

/-- A run that has no resource to check. -/
theorem approaches_of_unloaded {obstacle : Obstacle} (hresource : o.resource h = .error obstacle) :
    Approaches h o (answer h o) := by
  have hcourse : course h o = [] := by rw [course, hresource]
  refine ⟨fun _ => ?_, fun _ _ => hcourse, ?_, ?_, ?_, ?_, ?_⟩ <;>
    simp [answer, hcourse, hresource, Trace.lookupsIn]

/-- A run against a cluster. -/
theorem approaches_of_none {j : Jenkins} (hresource : o.resource h = .ok j)
    (hsecrets : o.secrets = none) : Approaches h o (answer h o) := by
  have hway := Cluster.way_connect h.surroundings o.select o.inCluster
  have hquiet := Trace.quiet_connect o.select o.inCluster h.surroundings
  obtain ⟨rest, hcourse, hrest, hfailed⟩ := exists_course_of_none hresource hsecrets
  generalize hreached : Cluster.connect o.select o.inCluster h.surroundings = reached at *
  have hlookups : reached.trace.lookupsIn .cluster = [] :=
    Trace.lookupsIn_eq_nil_of_quiet hquiet .cluster
  have hcalls : (course h o).calls = reached.trace.calls := by
    rw [hcourse, Trace.calls_append, hrest.calls_eq, List.append_nil]
  refine ⟨?_, ?_, ?_, ?_, ?_, ?_, ?_⟩
  · simp [hsecrets]
  · intro obstacle herror
    rw [hresource] at herror
    cases herror
  · intro _ _ _
    rw [answer, hcalls, hway.calls_eq]
  · intro context hmem
    rw [answer, hcalls] at hmem
    obtain ⟨hcontext, before, after, htrace⟩ := hway.announced hmem
    refine ⟨hcontext, before, after ++ rest, ?_⟩
    rw [answer, hcourse, htrace, List.append_assoc, List.cons_append, List.cons_append]
  · intro _ cluster _ _ hinside hcluster
    rw [hinside] at hreached hway
    rw [hreached] at hcluster
    rw [answer, hcalls]
    exact hway.kept hcluster
  · intro before c after htrace
    rw [answer, hcourse] at htrace
    -- a lookup in the cluster can only come after the cluster was reached
    obtain ⟨hbefore, hafter, hread⟩ := Trace.exists_before_lookup htrace hlookups hrest.calls_eq
    cases houtcome : reached.outcome with
    | error fault => exact absurd (hfailed fault houtcome).2 hread
    | ok cluster =>
      obtain ⟨hstop, hload⟩ := hway.loaded houtcome
      rw [hbefore]
      exact ⟨⟨j, hresource⟩, hload, hstop, hafter⟩
  · intro before call after fault htrace hstop
    rw [answer, hcalls] at htrace
    obtain ⟨hafter, houtcome⟩ := hway.stopped htrace hstop
    obtain ⟨hjudgement, hread⟩ := hfailed fault houtcome
    refine ⟨hafter, ?_, ?_⟩
    · rw [answer, hcourse, Trace.lookupsIn_append, hlookups, hread, List.append_nil]
    · rw [answer, hjudgement]
      rfl

/-- The run for an order approaches a cluster as it should. -/
theorem approaches (h : Host) (o : Order) : Approaches h o (answer h o) := by
  cases hsecrets : o.secrets with
  | some path => exact approaches_of_some hsecrets
  | none =>
    cases hresource : o.resource h with
    | error obstacle => exact approaches_of_unloaded hresource
    | ok j => exact approaches_of_none hresource hsecrets

/-- **Every run approaches a cluster as it should.** A command line that asks for the validation of
a manifest keeps to the route to a cluster, reads at its end, and stops where a step fails. It tells
which context it takes unless the name of the context disarms its closing tag, and it tells which
step failed unless the console cannot draw the report. Any other command line does nothing at
all. -/
theorem run_approaches (h : Host) (arguments : List Text) :
    (∀ line manifest, CommandLine.ofArguments arguments = .ok line →
      line.Asks h.files manifest →
      Approaches h (Request.order line manifest) (run h arguments) ∧
      (Tells h (run h arguments) ↔
        (∀ context, .loadContext context ∈ (run h arguments).trace.calls →
          ¬Markup.DisarmsClosing context) ∧
        ∀ call ∈ (run h arguments).trace.calls, ∀ fault,
          h.surroundings.stop? call = some fault → (Obstacle.cluster fault).isDrawn = true)) ∧
    ((∀ line manifest, CommandLine.ofArguments arguments = .ok line →
      ¬ line.Asks h.files manifest) → (run h arguments).trace = []) := by
  constructor
  · intro line manifest hline hasks
    have hrequest := Request.ofArguments_eq_ok_validate_iff.mpr ⟨line, manifest, hline, hasks, rfl⟩
    rw [run_of_validate hrequest]
    exact ⟨approaches h _, (approaches h _).tells_iff⟩
  · -- only an order has a trace, and it has one for a line that asks for it
    intro hnone
    cases hrequest : Request.ofArguments h.files arguments with
    | error fault => rw [run_of_usageFault hrequest]
    | ok request =>
      cases request with
      | validate o =>
        obtain ⟨line, manifest, hline, hasks, -⟩ :=
          Request.ofArguments_eq_ok_validate_iff.mp hrequest
        exact absurd hasks (hnone line manifest hline)
      | help => simp [run, hrequest, Run.ofExcept, perform]
      | version => simp [run, hrequest, Run.ofExcept, perform]

end Command

end

namespace Command

open scoped BuiltIn

/-- A host with two contexts, where a person selects the one that is not current, and an API with
credentials for every secret. -/
def clusterHost : Host where
  files := teamHost.files
  surroundings :=
    { contexts := .ok ⟨["dev", "prod"], .ofAtom (.text "dev")⟩
      choice := some "prod"
      contextFailure := none
      podFailure := some "Service host/port is not set."
      api := fun _ => .secret ⟨[], [("secret-key", .ofAtom (.text "s")),
        ("access-key", .ofAtom (.text "a"))]⟩ }
  environment := some "op"

/-- The command asks there for a context, loads the one that was selected, and then reads a secret.
Asked for its version, it does nothing. -/
theorem run_clusterHost :
    let s := clusterHost.surroundings
    let prompt := Surroundings.question ⟨["dev", "prod"], .ofAtom (.text "dev")⟩
    let r := run clusterHost ["jenkins.yaml", "--select"]
    r.trace.calls = [.listContexts, .ask prompt, .loadContext "prod"] ∧
      s.contextFor? true = some "prod" ∧
      r.trace.lookupsIn .cluster = [⟨"team", "op-backup-credentials-ci"⟩] ∧
      exitCode r.outcome = 0 ∧
      (run clusterHost ["jenkins.yaml", "--version"]).trace = [] := by
  intro s prompt r
  have hline : CommandLine.ofArguments ["jenkins.yaml", "--select"] =
      .ok ⟨[.switch .select], ["jenkins.yaml"]⟩ := by decide
  have hasks : (⟨[.switch .select], ["jenkins.yaml"]⟩ : CommandLine).Asks clusterHost.files
      "jenkins.yaml" := by constructor <;> decide
  have happroaches := ((run_approaches clusterHost _).1 _ _ hline hasks).1
  have hrun : (r.trace.calls, r.trace.lookupsIn .cluster, exitCode r.outcome) =
      ([.listContexts, .ask prompt, .loadContext "prod"],
        [⟨"team", "op-backup-credentials-ci"⟩], 0) := by
    decide +kernel
  simp only [Prod.mk.injEq] at hrun
  obtain ⟨hcalls, hlookups, hcode⟩ := hrun
  refine ⟨hcalls, ?_, hlookups, hcode, ?_⟩
  · -- by the theorem, since the context is among those that were loaded
    exact (happroaches.announced "prod" (by rw [hcalls]; decide)).1
  · refine (run_approaches clusterHost _).2 ?_
    intro line manifest hversion hasked
    have hparsed : CommandLine.ofArguments ["jenkins.yaml", "--version"] =
        .ok ⟨[.switch .version], ["jenkins.yaml"]⟩ := by decide
    obtain rfl := Except.ok.inj (hparsed.symm.trans hversion)
    exact absurd hasked.noVersion (by decide)

/-- A host where the contexts of a configuration turn out in some way. -/
def contextsHost (contexts : Except Text Contexts) : Host where
  files := teamHost.files
  surroundings := { Surroundings.bare with contexts }
  environment := none

/-- A name of a context that ends in backslashes makes the closing tag behind it literal. A detail
of a configuration that looks like a closing tag ends the run with the exit code 1. -/
theorem not_tells_foreign :
    let slashes : Host := contextsHost (.ok ⟨[], .ofAtom (.text "a\\\\\\")⟩)
    let closing : Host := contextsHost (.error "Expected object with name [/prod]")
    let r := run slashes ["jenkins.yaml"]
    let r' := run closing ["jenkins.yaml"]
    (¬Tells slashes r ∧ .loadContext "a\\\\\\" ∈ r.trace.calls) ∧
    (¬Tells closing r' ∧ r'.trace.calls = [.listContexts] ∧ exitCode r'.outcome = 1) := by
  intro slashes closing r r'
  have hslashes : r.trace.calls = [.listContexts, .loadContext "a\\\\\\"] := by
    decide +kernel
  have hclosing : (r'.trace.calls, exitCode r'.outcome) = ([.listContexts], 1) := by
    decide +kernel
  obtain ⟨hcalls, hcode⟩ := Prod.mk.inj hclosing
  have hloaded : .loadContext "a\\\\\\" ∈ r.trace.calls := by
    rw [hslashes]
    decide
  have hdisarms : Markup.DisarmsClosing "a\\\\\\" := by
    decide
  refine ⟨⟨fun htells => ?_, hloaded⟩, fun htells => ?_, hcalls, hcode⟩
  · -- the three backslashes make the tag that closes the name literal
    exact (Markup.encloses_iff_not_disarmsClosing _).mp (htells.named _ hloaded) hdisarms
  · -- the fault closes a tag that nothing has opened, so the run is not ended with its code
    have hcoded := htells.coded .listContexts (by rw [hcalls]; decide) _ rfl
    rw [hcode] at hcoded
    cases hcoded

end Command

end JenkinsAdmission
