import JenkinsAdmission.Proofs.Command.ErrorLine

/-!
# No line has tags of others

What a run shows names seed jobs, secrets, keys, files and contexts, and others have chosen these
names. Do the tags in them act on the console?

`Trace.HasOwnTags` says that everything in a trace is shown with our own tags, and
`Command.isOwn_or_endsWithFailure` that this holds of whatever a run shows, except for the error
about a cluster or a store that it may end with (see `Command.unmarked_iff` for that one).
-/

namespace JenkinsAdmission

/-- Everything is shown with our own tags. -/
def Trace.HasOwnTags (t : Trace) : Prop :=
  ∀ d ∈ t.console, d.IsOwn

namespace Trace

theorem HasOwnTags.append {s t : Trace} (hs : s.HasOwnTags) (ht : t.HasOwnTags) :
    (s ++ t).HasOwnTags := by
  intro d hd
  rw [console_append] at hd
  exact (List.mem_append.mp hd).elim (hs d) (ht d)

/-- Looking secrets up shows nothing. -/
theorem hasOwnTags_asked (source : Source) (places : List Coordinate) :
    HasOwnTags (places.map (.lookedUp source)) := by
  rw [HasOwnTags, console_asked]
  exact List.forall_mem_nil _

/-- Complaints whose warnings bring no tags are shown without bringing any. -/
theorem hasOwnTags_shown {complaints : List Complaint} (h : ∀ c ∈ complaints, c.warning.IsOwn) :
    HasOwnTags (Complaint.shown complaints) := by
  intro d hd
  rw [Complaint.console_shown] at hd
  obtain ⟨c, hc, rfl⟩ := List.mem_map.mp hd
  exact h c hc

end Trace

/-! ## What the command shows by itself -/

namespace Command

theorem hasOwnTags_announcement (j : Jenkins) : (announcement j).HasOwnTags :=
  List.forall_mem_cons.mpr ⟨Display.isOwn_message _ (isOwn_validating j),
    List.forall_mem_singleton.mpr isOwn_spinner⟩

theorem hasOwnTags_closing (j : Jenkins) (ok : Bool) : (closing j (.ok ok)).HasOwnTags := by
  refine List.forall_mem_cons.mpr ⟨isOwn_summary j ok, List.forall_mem_singleton.mpr ?_⟩
  cases ok with
  | true => exact Display.isOwn_message _ (isOwn_conclusion j (by decide))
  | false => exact Display.isOwn_message _ (isOwn_conclusion j (by decide))

end Command

section

variable [Platform]

/-! ## What validation shows -/

namespace SeedJob

/-- A defect of a deploy key is one that its check has found. -/
theorem isOwn_of_mem_keyDefects {answers : Answers} {ns : Text} {job : SeedJob}
    {defect : SeedJobDefect} (h : defect ∈ job.keyDefects answers ns) :
    Markup.IsOwn defect.message := by
  unfold keyDefects at h
  cases hfinding : job.finding answers ns with
  | error fault => simp [hfinding] at h
  | ok found =>
    rw [hfinding, Option.mem_toList] at h
    subst h
    unfold finding at hfinding
    split at hfinding
    · cases hfinding
    · split at hfinding
      · exact isOwn_of_keyDefect? (Except.mapError_eq_ok_iff.mp hfinding)
      · cases hfinding

/-- The check of a seed job shows its words with no tags but our own. -/
theorem hasOwnTags_steps (store : Store) (ns : Text) (job : SeedJob) :
    (job.steps store ns).HasOwnTags := by
  refine (Trace.HasOwnTags.append ?_ (Trace.hasOwnTags_asked _ _)).append ?_
  · refine Trace.hasOwnTags_shown fun c hc => ?_
    obtain ⟨defect, hdefect, rfl⟩ := List.mem_map.mp hc
    exact Complaint.isOwn_seedJob job (isOwn_of_mem_ownDefects hdefect)
  · refine Trace.hasOwnTags_shown fun c hc => ?_
    obtain ⟨defect, hdefect, rfl⟩ := List.mem_map.mp hc
    exact Complaint.isOwn_seedJob job (isOwn_of_mem_keyDefects hdefect)

end SeedJob

/-- Names are highlighted in everything that validation shows. -/
theorem Gate.hasOwnTags_validate (g : Gate) (environment : Option Text) (store : Store)
    (j : Jenkins) : (g.validate environment store j).trace.HasOwnTags := by
  have hjobs : (j.seedJobSteps store).HasOwnTags := by
    intro d hd
    rw [Jenkins.seedJobSteps, Trace.console_flatMap] at hd
    obtain ⟨job, -, hd⟩ := List.mem_flatMap.mp hd
    exact job.hasOwnTags_steps store j.ns d hd
  have hbackup : ∀ operator, (j.backupSteps store operator).HasOwnTags := by
    intro operator
    refine (Trace.hasOwnTags_asked _ _).append (Trace.hasOwnTags_shown fun c hc => ?_)
    obtain ⟨key, -, rfl⟩ := List.mem_map.mp hc
    exact Complaint.isOwn_credential _ key
  rcases validate_cases g environment store j with ⟨_, -, h⟩ | ⟨-, -, h⟩ | ⟨-, -, -, h⟩
  · rw [h]
    exact hjobs
  · rw [h]
    exact hjobs.append (hbackup _)
  · rw [h]
    exact hjobs

/-! ## What a run shows -/

/-- On the way to a cluster, the context is all that is named. -/
theorem Cluster.Way.hasOwnTags {s : Surroundings} {select inside : Bool}
    {r : Run ClusterFault Cluster} (h : Way s select inside r) : r.trace.HasOwnTags := by
  intro d hd
  cases h with
  | podFailed | unlisted | unwritten => cases hd
  | podLoaded | cancelled =>
    rw [List.mem_singleton.mp hd]
    exact Display.isOwn_message _ (Markup.IsPlain.isOwn (by decide))
  | contextFailed contexts name | contextLoaded contexts name =>
    obtain rfl : d = .message .action ("Working with " ++ Markup.highlight name ++ " cluster") := by
      cases select <;> exact List.mem_singleton.mp hd
    refine Display.isOwn_message _ ?_
    rw [List.append_assoc]
    exact Markup.isOwn_naming (by decide) name (Markup.IsPlain.isOwn (by decide))

namespace Command

/-- So does the opening of a run. -/
theorem hasOwnTags_opening (h : Host) (o : Order) : (opening h o).HasOwnTags := by
  unfold opening
  cases o.secrets with
  | some path =>
    intro d hd
    rw [List.mem_singleton.mp hd]
    exact Display.isOwn_message _ (isOwn_offline path)
  | none => exact (Cluster.way_connect ..).hasOwnTags

/-- A run shows no tags but our own, except in the error line that it ends with. -/
theorem isOwn_or_endsWithFailure_course (h : Host) (o : Order) :
    ∀ d ∈ (course h o).console,
      d.IsOwn ∨ ∃ body, d = .message .error body ∧ (course h o).EndsWithFailure body := by
  intro d hd
  -- a notice is an error line, and the run ends with it
  have hnotice : ∀ obstacle, o.judgement h = .error obstacle → d ∈ obstacle.notice.console →
      ∃ body, d = .message .error body ∧ (course h o).EndsWithFailure body := by
    intro obstacle hobstacle hd
    rw [Obstacle.console_notice] at hd
    obtain ⟨body, hbody, rfl⟩ := List.mem_map.mp hd
    refine ⟨body, rfl, (endsWithFailure_course_iff h o body).mpr ⟨obstacle, hobstacle, ?_⟩⟩
    exact Option.mem_toList.mp hbody
  rcases o.opens_or_failsWith h with ⟨j, store, hopens⟩ | ⟨obstacle, hfails⟩
  · have hbefore := ((hasOwnTags_opening h o).append (hasOwnTags_announcement j)).append
      (Gate.hasOwnTags_validate ⟨o.full, o.operatorName⟩ h.environment store j)
    have hcourse := hd
    rw [course_of_opens hopens, Trace.console_append] at hcourse
    rcases List.mem_append.mp hcourse with hd | hd
    · exact .inl (hbefore d hd)
    · -- at the close there is a conclusion or a notice
      cases houtcome : (o.validation h store j).outcome with
      | ok ok =>
        rw [houtcome] at hd
        exact .inl (hasOwnTags_closing j ok d hd)
      | error fault =>
        rw [houtcome] at hd
        exact .inr (hnotice (.store fault) (by rw [hopens.judgement_eq, houtcome]; rfl) hd)
  · have hjudgement := hfails.judgement_eq
    cases hfails with
    | unloaded hresource =>
      rw [course, hresource] at hd
      cases hd
    | unopened hresource hstore =>
      have hcourse : course h o = opening h o ++ obstacle.notice := by
        rw [course, hresource]
        simp only [hstore]
      -- the notice stands right behind the opening
      have hsplit := hd
      rw [hcourse, Trace.console_append] at hsplit
      rcases List.mem_append.mp hsplit with hd | hd
      · exact .inl (hasOwnTags_opening h o d hd)
      · exact .inr (hnotice obstacle hjudgement hd)

/-- **Whatever a run shows has our own tags only**, up to the error about a cluster or a store that
it may end with. -/
theorem isOwn_or_endsWithFailure (h : Host) (arguments : List Text) :
    ∀ d ∈ (run h arguments).trace.console,
      d.IsOwn ∨ ∃ body, d = .message .error body ∧ (run h arguments).trace.EndsWithFailure body := by
  intro d hd
  cases hrequest : Request.ofArguments h.files arguments with
  | error fault =>
    rw [run_of_usageFault hrequest] at hd
    cases hd
  | ok request =>
    cases request with
    | help | version =>
      rw [run, hrequest] at hd
      cases hd
    | validate o =>
      rw [run_of_validate hrequest] at hd ⊢
      exact isOwn_or_endsWithFailure_course h o d hd

end Command

end

end JenkinsAdmission
