import JenkinsAdmission.BuiltIn
import JenkinsAdmission.Proofs.Cluster
import JenkinsAdmission.Proofs.Gate.Warnings
import JenkinsAdmission.Proofs.Command.Refinement

/-!
# The last line of a failure

A run that a cluster or a store brings to its end shows an error, and in it texts that others have
chosen: names of secrets, reasons of an API, details of a configuration. What do the tags in these
texts do?

* `Trace.EndsWithFailure` says that a run ends with such an error, and
  `Command.endsWithFailure_course_iff` says which ones do.
* `Obstacle.foreign` is what others have put into the error. Its tags are all live
  (`Obstacle.liveTags_of_report?`).
* `Command.unmarked_iff` says that an error has the tags of its level alone if and only if these
  texts have no live tag, and `Command.liveTags_escaped_failure` says that this could be had for
  every text.
-/

namespace JenkinsAdmission

/-! ## Errors at the end of a run -/

/-- What the errors about a cluster and about a store begin with. -/
def Command.introductions : List Text :=
  ["Cluster connection failed: ", "Secret store error: "]

namespace Trace

variable {s t : Trace} {body : Text}

/-- The last thing shown is an error about a cluster or a store. -/
def EndsWithFailure (t : Trace) (body : Text) : Prop :=
  t.console.getLast? = some (.message .error body) ∧
    ∃ introduction ∈ Command.introductions, introduction <+: body

/-- A run that ends with an error about a cluster or a store shows it with the tags of its level and
no others. -/
def Unmarked (t : Trace) : Prop :=
  ∀ body, t.EndsWithFailure body →
    Markup.liveTags (Level.error.line body) = [("[error]" : Text), "[/error]"]

/-- No error is shown. -/
def Calm (t : Trace) : Prop :=
  ∀ body, .message .error body ∉ t.console

theorem Calm.append (hs : s.Calm) (ht : t.Calm) : (s ++ t).Calm := by
  intro body hmem
  rw [console_append] at hmem
  exact (List.mem_append.mp hmem).elim (hs body) (ht body)

/-- A trace without error lines does not end with one. -/
theorem Calm.not_endsWithFailure (ht : t.Calm) : ¬t.EndsWithFailure body :=
  fun h => ht body (List.mem_of_getLast? h.1)

end Trace

/-! ## What is said about an obstacle -/

namespace Obstacle

variable {obstacle : Obstacle} {body : Text}

/-- A notice shows the report of the obstacle and nothing else. -/
theorem console_notice (obstacle : Obstacle) :
    obstacle.notice.console = obstacle.report?.toList.map (.message .error) := by
  rw [notice]
  cases obstacle.report? <;> rfl

/-- Every report starts with one of the introductions. -/
theorem exists_introduction_of_report? (h : obstacle.report? = some body) :
    ∃ introduction ∈ Command.introductions, introduction <+: body := by
  cases obstacle with
  | manifest fault => cases h
  | cluster fault =>
    obtain ⟨words, -, rfl⟩ := Option.map_eq_some_iff.mp h
    exact ⟨_, by simp [Command.introductions], List.prefix_append ..⟩
  | store fault =>
    obtain ⟨words, -, rfl⟩ := Option.map_eq_some_iff.mp h
    exact ⟨_, by simp [Command.introductions], List.prefix_append ..⟩

/-- After a calm run, an obstacle is what it ends with if and only if it is reported. -/
theorem endsWithFailure_notice_iff {t : Trace} (ht : t.Calm) :
    (t ++ obstacle.notice).EndsWithFailure body ↔ obstacle.report? = some body := by
  rw [Trace.EndsWithFailure, Trace.console_append, console_notice]
  cases h : obstacle.report? with
  | none =>
    refine iff_of_false ?_ nofun
    rw [Option.toList_none, List.map_nil, List.append_nil]
    exact ht.not_endsWithFailure
  | some words =>
    rw [Option.toList_some, List.map_singleton, List.getLast?_concat, Option.some.injEq,
      Display.message.injEq, Option.some.injEq]
    constructor
    · rintro ⟨⟨-, hwords⟩, -⟩
      exact hwords
    · rintro rfl
      exact ⟨⟨rfl, rfl⟩, exists_introduction_of_report? h⟩

end Obstacle

namespace Command

theorem calm_announcement (j : Jenkins) : (announcement j).Calm := by
  simp [announcement, Trace.Calm, Trace.console]

/-- What is highlighted starts with a tag. -/
theorem highlight_eq_cons (t : Text) : ∃ rest, Markup.highlight t = .scalar '[' :: rest :=
  ⟨_, rfl⟩

/-- What a verdict is summed up with is no error about a cluster or a store. -/
theorem not_endsWithFailure_closing {j : Jenkins} {ok : Bool} {t : Trace} {body : Text} :
    ¬(t ++ closing j (.ok ok)).EndsWithFailure body := by
  rintro ⟨hlast, introduction, hmem, hprefix⟩
  cases ok with
  | true => simp [closing, Trace.console] at hlast
  | false =>
    obtain rfl : Markup.highlight j.name ++ " has an invalid configuration" = body := by
      simpa [closing, Trace.console] using hlast
    -- a highlighted name begins with a bracket
    obtain ⟨rest, hrest⟩ := highlight_eq_cons j.name
    rw [hrest] at hprefix
    simp only [introductions, List.mem_cons, List.not_mem_nil, or_false] at hmem
    rcases hmem with rfl | rfl
    · exact absurd (List.cons_prefix_cons.mp hprefix).1 (by decide)
    · exact absurd (List.cons_prefix_cons.mp hprefix).1 (by decide)

end Command

/-! ## Tags of others -/

namespace Obstacle

/-- What others have put into the words of a fault. -/
def foreign : Obstacle → Text
  | cluster (.podConfiguration detail) => detail
  | cluster (.contextConfiguration detail) => detail
  | store (.notFound c) => c.path
  | store (.reported words) => words
  | store (.refused c status reason) => c.path ++ "': " ++ status ++ " " ++ reason
  | store (.unreachable detail) => detail
  | store (.malformed c _) => c.path
  | _ => []

/-- An obstacle that is not reported says nothing in the words of others. -/
theorem foreign_of_report?_eq_none {obstacle : Obstacle} (h : obstacle.report? = none) :
    obstacle.foreign = [] := by
  rcases obstacle with fault | fault | fault
  · rfl
  · cases fault with
    | podConfiguration | contextConfiguration => cases h
    | cancelled | broken => rfl
  · cases fault with
    | broken => rfl
    | _ => cases h

/-- What is said about a defect closes no tag. -/
theorem not_mem_defect_message (defect : Base64.Defect) : .scalar ']' ∉ defect.message := by
  cases defect with
  | danglingCharacter count =>
    have hcount : .scalar ']' ∉ Text.ofNat count := by
      intro hmem
      obtain ⟨c, hc, heq⟩ := List.mem_map.mp hmem
      obtain rfl := CodePoint.scalar.inj heq
      exact absurd (Nat.isDigit_of_mem_toDigits (by decide) (by decide) hc) (by decide)
    rw [Base64.Defect.message, List.mem_append, List.mem_append, not_or, not_or]
    exact ⟨⟨by decide, hcount⟩, by decide⟩
  | _ => decide

/-- The live tags of the words of a fault are those of what others have put into them. -/
theorem liveTags_of_message? {fault : LookupFault} {words : Text}
    (h : fault.message? = some words) :
    Markup.liveTags words = Markup.liveTags (store fault).foreign := by
  cases fault with
  | notFound c =>
    obtain rfl := Option.some.inj h
    rw [Markup.liveTags_append_of_noClose _ (by decide),
      Markup.liveTags_append_of_plain (by decide), foreign]
  | reported => rw [Option.some.inj h, foreign]
  -- everything behind the first words is foreign
  | refused c status reason =>
    obtain rfl := Option.some.inj h
    simp only [List.append_assoc, foreign]
    rw [Markup.liveTags_append_of_plain (by decide)]
  | unreachable detail =>
    obtain rfl := Option.some.inj h
    rw [Markup.liveTags_append_of_plain (by decide), foreign]
  -- the words about the defect close no tag, and neither do those in between
  | malformed c defect =>
    obtain rfl := Option.some.inj h
    rw [Markup.liveTags_append_of_noClose _ (not_mem_defect_message defect),
      Markup.liveTags_append_of_noClose _ (by decide), Markup.liveTags_append_of_plain (by decide),
      foreign]
  | broken => cases h

/-- The tags of an error are those that others have put there. -/
theorem liveTags_of_report? {obstacle : Obstacle} {body : Text}
    (h : obstacle.report? = some body) :
    Markup.liveTags body = Markup.liveTags obstacle.foreign := by
  cases obstacle with
  | manifest => cases h
  | cluster fault =>
    obtain ⟨words, hwords, rfl⟩ := Option.map_eq_some_iff.mp h
    rw [Markup.liveTags_append_of_plain (by decide)]
    cases fault with
    | podConfiguration | contextConfiguration =>
      obtain rfl := Option.some.inj hwords
      rw [Markup.liveTags_append_of_plain (by decide), foreign]
    | cancelled | broken => cases hwords
  | store fault =>
    obtain ⟨words, hwords, rfl⟩ := Option.map_eq_some_iff.mp h
    rw [Markup.liveTags_append_of_plain (by decide), liveTags_of_message? hwords]

/-- The live tags of an error line are those of its level and those in the words of others. -/
theorem liveTags_line_of_report? {obstacle : Obstacle} {body : Text}
    (h : obstacle.report? = some body) :
    Markup.liveTags (Level.error.line body) =
      [("[error]" : Text), "[/error]"] ++ Markup.liveTags obstacle.foreign := by
  rw [Level.liveTags_line, liveTags_of_report? h]
  rfl

end Obstacle

/-- Escaped words have no live tag, whatever they are. -/
theorem Command.liveTags_escaped_failure {introduction : Text}
    (h : introduction ∈ Command.introductions)
    (words : Text) :
    Markup.liveTags (Level.error.line (introduction ++ Markup.escape words)) =
      [("[error]" : Text), "[/error]"] := by
  have hplain : Markup.IsPlain introduction := by
    revert introduction
    decide
  rw [Level.liveTags_line, Markup.liveTags_append_of_plain hplain, Markup.liveTags_escape]
  rfl

/-! ## The last line of a run -/

section

variable [Platform]

/-- Nothing on the way to a cluster is an error. -/
theorem Cluster.Way.calm {s : Surroundings} {select inside : Bool} {r : Run ClusterFault Cluster}
    (h : Way s select inside r) : r.trace.Calm := by
  cases h with
  | contextFailed | contextLoaded =>
    cases select <;> simp [Trace.Calm, Trace.console, asking, Cluster.announced]
  | _ => simp [Trace.Calm, Trace.console, asking]

namespace Command

/-- Opening a run shows no error line. -/
theorem calm_opening (h : Host) (o : Order) : (opening h o).Calm := by
  unfold opening
  cases o.secrets with
  | some path => simp [Trace.Calm, Trace.console]
  | none => exact (Cluster.way_connect ..).calm

end Command

/-- Nothing that validation shows is an error. -/
theorem Order.calm_validation (h : Host) (o : Order) (store : Store) (j : Jenkins) :
    (o.validation h store j).trace.Calm := by
  intro body hmem
  obtain ⟨other, hother⟩ := Gate.exists_warning_of_mem_console _ _ hmem
  cases hother

namespace Command

/-- The last line of a course is an error about a cluster or a store if and only if an obstacle is
reported. -/
theorem endsWithFailure_course_iff (h : Host) (o : Order) (body : Text) :
    (course h o).EndsWithFailure body ↔
      ∃ obstacle, o.judgement h = .error obstacle ∧ obstacle.report? = some body := by
  rcases o.opens_or_failsWith h with ⟨j, store, hopens⟩ | ⟨obstacle, hfails⟩
  · rw [course_of_opens hopens, hopens.judgement_eq]
    cases (o.validation h store j).outcome with
    -- a run that validates ends with its conclusion, which may be an error line but is no report
    | ok ok =>
      refine iff_of_false not_endsWithFailure_closing ?_
      rintro ⟨obstacle, h, -⟩
      cases h
    | error fault =>
      have hcalm := ((calm_opening h o).append (calm_announcement j)).append
        (o.calm_validation h store j)
      rw [closing, Obstacle.endsWithFailure_notice_iff hcalm]
      simp
  · rw [hfails.judgement_eq]
    simp only [Except.error.injEq, exists_eq_left']
    cases hfails with
    | unloaded hresource =>
      obtain ⟨fault, -, rfl⟩ := Except.mapError_eq_error_iff.mp hresource
      rw [course, hresource]
      refine iff_of_false ?_ ?_
      · rintro ⟨hlast, -⟩
        cases hlast
      · intro hreport
        cases hreport
    -- the notice comes right behind the opening
    | unopened hresource hstore =>
      rw [course, hresource]
      simp only [hstore]
      exact Obstacle.endsWithFailure_notice_iff (calm_opening h o)

/-- The error line of a run, if it has one, shows an obstacle of the order that the command line
asks for. -/
theorem endsWithFailure_run_iff (h : Host) (arguments : List Text) (body : Text) :
    (run h arguments).trace.EndsWithFailure body ↔
      ∃ line manifest obstacle, CommandLine.ofArguments arguments = .ok line ∧
        line.Asks h.files manifest ∧
        (Request.order line manifest).judgement h = .error obstacle ∧
        obstacle.report? = some body := by
  constructor
  · intro hends
    cases hrequest : Request.ofArguments h.files arguments with
    | error fault =>
      rw [run_of_usageFault hrequest] at hends
      -- the parser of arguments shows its own message, not through the console
      cases hends.1
    | ok request =>
      cases request with
      | help | version =>
        rw [run, hrequest] at hends
        cases hends.1
      | validate o =>
        rw [run_of_validate hrequest, answer, endsWithFailure_course_iff] at hends
        obtain ⟨line, manifest, hline, hasks, rfl⟩ :=
          Request.ofArguments_eq_ok_validate_iff.mp hrequest
        obtain ⟨obstacle, hobstacle, hreport⟩ := hends
        exact ⟨line, manifest, obstacle, hline, hasks, hobstacle, hreport⟩
  · rintro ⟨line, manifest, obstacle, hline, hasks, hobstacle, hreport⟩
    have hrequest := Request.ofArguments_eq_ok_validate_iff.mpr ⟨line, manifest, hline, hasks, rfl⟩
    rw [run_of_validate hrequest, answer, endsWithFailure_course_iff]
    exact ⟨obstacle, hobstacle, hreport⟩

/-- **An error about a cluster or a store has the tags of its level, and those that others have put
into it.** So a run ends without other tags if and only if nobody has put any there. -/
theorem unmarked_iff (h : Host) (arguments : List Text) :
    ((run h arguments).trace.Unmarked ↔
      ∀ line manifest obstacle, CommandLine.ofArguments arguments = .ok line →
        line.Asks h.files manifest → (Request.order line manifest).judgement h = .error obstacle →
        Markup.liveTags obstacle.foreign = []) ∧
    ∀ body, (run h arguments).trace.EndsWithFailure body →
      ∃ line manifest obstacle, CommandLine.ofArguments arguments = .ok line ∧
        line.Asks h.files manifest ∧ (Request.order line manifest).judgement h = .error obstacle ∧
        Markup.liveTags (Level.error.line body) =
          [("[error]" : Text), "[/error]"] ++ Markup.liveTags obstacle.foreign := by
  refine ⟨⟨?_, ?_⟩, ?_⟩
  · intro hunmarked line manifest obstacle hread hasks hobstacle
    cases hreport : obstacle.report? with
    | none => rw [Obstacle.foreign_of_report?_eq_none hreport, Markup.liveTags_nil]
    | some body =>
      have htags := hunmarked body ((endsWithFailure_run_iff h arguments body).mpr
        ⟨line, manifest, obstacle, hread, hasks, hobstacle, hreport⟩)
      -- the tags of the level are there in any case, so they cancel out
      rw [Obstacle.liveTags_line_of_report? hreport] at htags
      exact List.append_cancel_left (htags.trans (List.append_nil _).symm)
  · intro hforeign body hends
    obtain ⟨line, manifest, obstacle, hread, hasks, hobstacle, hreport⟩ :=
      (endsWithFailure_run_iff h arguments body).mp hends
    rw [Obstacle.liveTags_line_of_report? hreport,
      hforeign line manifest obstacle hread hasks hobstacle, List.append_nil]
  · intro body hends
    obtain ⟨line, manifest, obstacle, hread, hasks, hobstacle, hreport⟩ :=
      (endsWithFailure_run_iff h arguments body).mp hends
    exact ⟨line, manifest, obstacle, hread, hasks, hobstacle,
      Obstacle.liveTags_line_of_report? hreport⟩

end Command

/-! ## Reports that can be drawn -/

/-- What others have put into a report is all that may keep a console from drawing it. -/
theorem Obstacle.isDrawn_of_foreign {obstacle : Obstacle}
    (h : Markup.liveTags obstacle.foreign = []) : obstacle.isDrawn = true := by
  rw [isDrawn, Option.all_eq_true]
  intro body hbody
  have hown : Markup.IsOwn body :=
    .of_liveTags_eq_nil ((liveTags_of_report? (Option.mem_def.mp hbody)).trans h)
  exact Display.isDrawn_of_isOwn (Display.isOwn_message .error hown)

/-- So a cluster or a store that fails has an exit code of its own where others use no tags. -/
theorem Command.exitCode_ending_of_foreign {obstacle : Obstacle}
    (hoperational : obstacle.isOperational = true)
    (hforeign : Markup.liveTags obstacle.foreign = []) :
    exitCode (.error obstacle.ending) = 3 := by
  rw [exitCode_ending, if_pos ⟨hoperational, Obstacle.isDrawn_of_foreign hforeign⟩]

end

namespace Command

open scoped BuiltIn

/-- The name of an operator may hold a tag, and then the error about missing credentials has it. -/
theorem not_unmarked_bracketedOperator :
    let files (path : Text) : FileState :=
      if path = "m.yaml" then .bytes (Bytes.ofString (
        "kind: Jenkins\n" ++
        "metadata: \x7bname: j\x7d\n" ++
        "spec: \x7bbackup: AmazonS3\x7d\n"))
      else if path = "s.yaml" then .bytes []
      else .missing
    let t := (run ⟨files, .bare, none⟩ ["m.yaml", "-s", "s.yaml", "--operator-name", "[x]"]).trace
    let body : Text := "Secret store error: Secret 'default/[x]-backup-credentials-j' not found"
    t.EndsWithFailure body ∧
      Markup.liveTags (Level.error.line body) = [("[error]" : Text), "[/error]", "[x]"] ∧
      ¬t.Unmarked := by
  intro files t body
  have hends : t.EndsWithFailure body :=
    ⟨by decide +kernel, _, List.mem_cons_of_mem _ List.mem_cons_self, List.prefix_append _ _⟩
  have htags :
      Markup.liveTags (Level.error.line body) = [("[error]" : Text), "[/error]", "[x]"] := by
    have hbody : body = ("Secret store error: Secret 'default/" : Text) ++
        (("[x]" : Text) ++ (("-backup-credentials-j' not found" : Text) ++ [])) := rfl
    rw [Level.liveTags_line, hbody, Markup.liveTags_append_of_plain (by decide),
      Markup.liveTags_tag_append (by decide), Markup.liveTags_append_of_plain (by decide),
      Markup.liveTags_nil]
    rfl
  refine ⟨hends, htags, fun hunmarked => ?_⟩
  have hown := hunmarked body hends
  rw [htags] at hown
  exact absurd hown (by decide)

/-- With a closing tag in that name the console fails. -/
example : exitCode (run teamHost
    ["jenkins.yaml", "-s", "secrets.yaml", "--operator-name", "[/x]"]).outcome = 1 := by
  decide +kernel

end Command

end JenkinsAdmission
