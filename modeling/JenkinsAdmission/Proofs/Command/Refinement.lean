import JenkinsAdmission.BuiltIn
import JenkinsAdmission.Proofs.Command.Course
import JenkinsAdmission.Proofs.Command.Request
import JenkinsAdmission.Proofs.Manifest.Stream

/-!
# The command against the library

What becomes of a judgement of the library when the command passes it on? `Command.Refines` says it
of a run and an order: the exit code, the report of a rejected manifest, and the panel that sums a
verdict up. `Command.run_refines` says that this holds of every command line that asks for the
validation of a manifest, on every platform.

A cluster or a store that fails is told apart by an exit code of its own as long as the console can
draw what is reported about it (`Obstacle.isDrawn`).

The report goes to a stream that is no terminal, where not every text can go as it is.
`Stream.shown_of_plain` says which texts can, and `Command.not_reported_verbatim` is about one that
cannot.
-/

namespace JenkinsAdmission

/-! ## Reports -/

namespace Stream

/-- Whether a code point goes to a stream as it is, whatever stands around it. -/
def isPlain : CodePoint → Bool
  | .scalar c => c != '\x1b' && c != '\r'
  | .surrogate _ => false

/-- There are no controls to take out of a plain text. -/
theorem withoutControls_of_plain {t : Text} (h : t.all isPlain = true) : withoutControls t = t := by
  unfold withoutControls
  induction t with
  | nil => rfl
  | cons c rest ih =>
    obtain ⟨hc, hrest⟩ := Bool.and_eq_true_iff.mp h
    have hescape : c ≠ .scalar '\x1b' := by
      rintro rfl
      cases hc
    rw [withoutControlsAfter, if_neg hescape]
    simp only [ih hrest]

/-- There is nothing in a plain text that cannot be encoded. -/
theorem encodable_of_plain {t : Text} (h : t.all isPlain = true) : encodable t = t := by
  induction t with
  | nil => rfl
  | cons c rest ih =>
    obtain ⟨hc, hrest⟩ := Bool.and_eq_true_iff.mp h
    cases c with
    | surrogate s => cases hc
    | scalar c =>
      rw [encodable, List.flatMap_cons, ← encodable, ih hrest]
      rfl

/-- A plain text has the line ends that it is written with. -/
theorem withLineFeeds_of_plain {t : Text} (h : t.all isPlain = true) : withLineFeeds t = t := by
  induction t with
  | nil => rfl
  | cons c rest ih =>
    obtain ⟨hc, hrest⟩ := Bool.and_eq_true_iff.mp h
    have hreturn : c ≠ .scalar '\r' := by
      rintro rfl
      cases hc
    rw [withLineFeeds, if_neg fun hcontrol => hreturn hcontrol.1, ih hrest]

/-- A text without escapes, lone surrogates and carriage returns arrives as it is. -/
theorem shown_of_plain {t : Text} (h : t.all isPlain = true) : shown t = t := by
  rw [shown, withoutControls_of_plain h, encodable_of_plain h, withLineFeeds_of_plain h]

end Stream

namespace Command

/-- An error line in plain text is shown as it is. -/
theorem shown_errorLine {message : Text} (h : message.all Stream.isPlain = true) :
    Stream.shown (errorLine message) = errorLine message := by
  apply Stream.shown_of_plain
  rw [errorLine, List.all_append, List.all_append, h]
  decide

/-! ## Exit codes -/

/-- The exit code for an obstacle as such. -/
theorem exitCode_fault (obstacle : Obstacle) :
    exitCode (.error obstacle.fault) = if obstacle.isOperational then 3 else 1 := by
  rcases obstacle with fault | fault | fault
  · cases fault <;> rfl
  · cases fault <;> rfl
  · cases fault <;> rfl

section

variable [Platform]

/-- The exit code for an obstacle that is reported. -/
theorem exitCode_ending (obstacle : Obstacle) :
    exitCode (.error obstacle.ending) =
      if obstacle.isOperational = true ∧ obstacle.isDrawn = true then 3 else 1 := by
  rw [Obstacle.ending]
  cases obstacle.isDrawn with
  | true => simp [exitCode_fault]
  | false => simp [exitCode]

/-- Each exit code but 2 says something about the judgement. -/
theorem exitCode_iff (judgement : Except Obstacle Bool) :
    let code := exitCode ((judgement.mapError Obstacle.ending).map .verdict)
    (code = 0 ↔ judgement = .ok true) ∧
    (code = 3 ↔ ∃ obstacle, judgement = .error obstacle ∧ obstacle.isOperational = true ∧
      obstacle.isDrawn = true) ∧
    (code = 1 ↔ judgement = .ok false ∨ ∃ obstacle, judgement = .error obstacle ∧
      (obstacle.isOperational = true → obstacle.isDrawn = false)) ∧
    code ≠ 2 := by
  rcases judgement with obstacle | ok
  · rw [Except.mapError_error, Except.map_error, exitCode_ending]
    cases hoperational : obstacle.isOperational <;> cases hdrawn : obstacle.isDrawn <;>
      simp [hoperational, hdrawn]
  · cases ok <;> simp [exitCode]

/-! ## Refinement -/

/-- A run of the command, and what it prints besides the console, do for an order what the library
does, and tell how it went. -/
structure Refines (h : Host) (o : Order) (r : Run CommandFault Outcome) (printed : Text) : Prop where
  /-- the exit code is 0 where the library approves -/
  zero : exitCode r.outcome = 0 ↔ o.judgement h = .ok true
  /-- it is 3 where a cluster or a store failed and the report of that is drawn -/
  three : exitCode r.outcome = 3 ↔ ∃ obstacle, o.judgement h = .error obstacle ∧
    obstacle.isOperational = true ∧ obstacle.isDrawn = true
  /-- it is 1 where the library disapproves, and for every other obstacle -/
  one : exitCode r.outcome = 1 ↔ o.judgement h = .ok false ∨
    ∃ obstacle, o.judgement h = .error obstacle ∧
      (obstacle.isOperational = true → obstacle.isDrawn = false)
  /-- nothing is noted that nobody asked for -/
  silent : o.debug = false → noted h (.validate o) = []
  /-- a rejected manifest is reported as it can go to a stream, behind the notes, and not summed
  up -/
  rejected : ∀ defect, o.judgement h = .error (.manifest (.rejected defect)) →
    printed = noted h (.validate o) ++ Stream.shown (errorLine defect.message) ∧
      r.trace.panels = []
  /-- a report is the wording of the defect, word for word, if it can go there as it is -/
  verbatim : ∀ defect, o.judgement h = .error (.manifest (.rejected defect)) →
    defect.message.all Stream.isPlain = true →
    printed = noted h (.validate o) ++ errorLine defect.message
  /-- nothing else is printed besides the console if there is a verdict, or an operational
  obstacle -/
  unreported : (∃ ok, o.judgement h = .ok ok) ∨
      (∃ obstacle, o.judgement h = .error obstacle ∧ obstacle.isOperational = true) →
    printed = noted h (.validate o)
  /-- a secret that names no namespace is found in that of the resource -/
  unplaced : ∀ j store path documents document metadata name t, o.Opens h j store →
    o.secrets = some path → Manifest.documents path (h.files path) = .ok documents →
    document ∈ documents → Manifest.isSecret document = true →
    Manifest.secretMetadata document = .ok (metadata, name) →
    metadata.given? "namespace" = none → name.written? = some t →
    ∃ data, store.get ⟨j.ns, t⟩ = .ok data
  /-- the validation of the resource is part of the run, and no panel comes before its end -/
  validated : ∀ j store, o.Opens h j store →
    ∃ before after, r.trace = before ++ (o.validation h store j).trace ++ after ∧ before.Quiet ∧
      (o.validation h store j).trace.panels = [] ∧ after.lookups = []
  /-- a verdict is summed up once -/
  summed : ∀ j store ok, o.Opens h j store → (o.validation h store j).outcome = .ok ok →
    r.trace.panels = [summary j ok]
  /-- without a verdict there is no panel -/
  panel : r.trace.panels ≠ [] ↔ ∃ ok, o.judgement h = .ok ok
  /-- without a resource and a store nothing is validated -/
  idle : ∀ obstacle, o.FailsWith h obstacle → r.trace.Quiet

/-- A secret that names no namespace is found in the one that its store was opened for. -/
theorem exists_get_of_unplaced {h : Host} {o : Order} {ns path : Text} {documents : List Value}
    {store : Store} {document metadata name : Value} {t : Text}
    (hstore : o.store h ns = .ok store) (hsecrets : o.secrets = some path)
    (hdocuments : Manifest.documents path (h.files path) = .ok documents)
    (hmem : document ∈ documents) (hsecret : Manifest.isSecret document = true)
    (hnamed : Manifest.secretMetadata document = .ok (metadata, name))
    (hns : metadata.given? "namespace" = none) (hname : name.written? = some t) :
    ∃ data, store.get ⟨ns, t⟩ = .ok data := by
  simp only [Order.store, hsecrets, Manifest.loadSecrets, hdocuments, Except.ok_bind,
    Except.mapError_eq_ok_iff, Except.map_eq_ok_iff] at hstore
  obtain ⟨secrets, hload, rfl⟩ := hstore
  obtain ⟨data, hdata⟩ :=
    Manifest.exists_get?_of_unplaced hload hmem hsecret hnamed hns hname
  exact ⟨data, by simp only [Secrets.store, hdata]⟩

/-- The run for an order. -/
def answer (h : Host) (o : Order) : Run CommandFault Outcome :=
  ⟨((o.judgement h).mapError Obstacle.ending).map .verdict, course h o⟩

/-- The last words about a rejected manifest. -/
theorem faultText_of_rejected {h : Host} {o : Order} {defect : ManifestDefect}
    (hdefect : o.judgement h = .error (.manifest (.rejected defect))) :
    faultText (answer h o).outcome = Stream.shown (errorLine defect.message) := by
  rw [answer, hdefect, Except.mapError_error, Obstacle.ending_of_not_isOperational rfl]
  rfl

/-- The console tells about a cluster and a store. -/
theorem faultText_of_isOperational {h : Host} {o : Order} {obstacle : Obstacle}
    (hobstacle : o.judgement h = .error obstacle) (hoperational : obstacle.isOperational = true) :
    faultText (answer h o).outcome = [] := by
  rw [answer, hobstacle, Except.mapError_error, Except.map_error, Obstacle.ending]
  split
  · rcases obstacle with fault | fault | fault
    · cases hoperational
    · cases fault with
      | cancelled => cases hoperational
      | _ => rfl
    · cases fault <;> rfl
  · rfl

/-- What the command answers refines what the library makes of the order. -/
theorem refines (h : Host) (o : Order) :
    Refines h o (answer h o) (noted h (.validate o) ++ faultText (answer h o).outcome) where
  zero := (exitCode_iff _).1
  three := (exitCode_iff _).2.1
  one := (exitCode_iff _).2.2.1
  silent := by
    intro hdebug
    rw [noted, hdebug]
    rfl
  rejected := by
    intro defect hdefect
    refine ⟨by rw [faultText_of_rejected hdefect], ?_⟩
    -- a panel would mean a verdict, and there is none
    by_contra hpanels
    obtain ⟨ok, hok⟩ := (panels_course_ne_nil_iff h o).mp hpanels
    rw [hdefect] at hok
    cases hok
  verbatim := by
    intro defect hdefect hplain
    rw [faultText_of_rejected hdefect, shown_errorLine hplain]
  unreported := by
    rintro (⟨ok, hok⟩ | ⟨obstacle, hobstacle, hoperational⟩)
    · rw [answer, hok]
      exact List.append_nil _
    · rw [faultText_of_isOperational hobstacle hoperational, List.append_nil]
  unplaced := by
    intro j store path documents document metadata name t hopens
    exact exists_get_of_unplaced hopens.opened
  validated := by
    intro j store hopens
    exact ⟨_, _, course_of_opens hopens, quiet_announced h o j, Gate.panels_validate ..,
      lookups_closing ..⟩
  summed := by
    intro j store ok hopens hok
    rw [answer, panels_course_of_opens hopens, hok, panels_closing]
  panel := panels_course_ne_nil_iff h o
  idle := by
    intro obstacle hfails
    exact quiet_course_of_failsWith hfails

/-- A run for a request. -/
theorem run_of_validate {h : Host} {arguments : List Text} {o : Order}
    (hrequest : Request.ofArguments h.files arguments = .ok (.validate o)) :
    run h arguments = answer h o := by
  rw [run, hrequest, Except.mapError_ok, Run.ofExcept, Run.mk_ok_bind, perform, validate_eq,
    Run.map_mk, List.nil_append, answer]

/-- What is printed for a request besides the console. -/
theorem stderr_of_validate {h : Host} {arguments : List Text} {o : Order}
    (hrequest : Request.ofArguments h.files arguments = .ok (.validate o)) :
    stderr h arguments = noted h (.validate o) ++ faultText (answer h o).outcome := by
  rw [stderr, hrequest]
  simp only [perform, validate_eq, Run.map_mk, answer]

/-- A faulty request ends the run before anything is shown. -/
theorem run_of_usageFault {h : Host} {arguments : List Text} {fault : UsageFault}
    (hrequest : Request.ofArguments h.files arguments = .error fault) :
    run h arguments = ⟨.error (.ofUsage fault), []⟩ := by
  rw [run, hrequest, Except.mapError_error, Run.ofExcept, Run.mk_error_bind]

/-- The code 2 tells that the request was rejected, and it tells nothing else. -/
theorem exitCode_run_eq_two_iff {h : Host} {arguments : List Text} :
    exitCode (run h arguments).outcome = 2 ↔
      ∃ defect, Request.ofArguments h.files arguments = .error (.rejected defect) := by
  cases hrequest : Request.ofArguments h.files arguments with
  | error fault =>
    rw [run_of_usageFault hrequest]
    cases fault <;> simp [CommandFault.ofUsage, exitCode]
  | ok request =>
    refine iff_of_false ?_ nofun
    cases request with
    | validate o =>
      rw [run_of_validate hrequest]
      exact (exitCode_iff _).2.2.2
    | help => simp [run, hrequest, Run.ofExcept, perform, exitCode]
    | version => simp [run, hrequest, Run.ofExcept, perform, exitCode]

/-- **The command refines the library.** A command line that asks for the validation of a manifest
gets what the library makes of the order, told by an exit code, the report of a rejected manifest
and one panel for a verdict. A command line that is rejected ends with the exit code 2, and the only
way not to get as far is a path that the system refuses to look for. -/
theorem run_refines (h : Host) (arguments : List Text) :
    (exitCode (run h arguments).outcome = 2 ↔
      ∃ defect, Request.ofArguments h.files arguments = .error (.rejected defect)) ∧
    (∀ cause, Request.ofArguments h.files arguments = .error (.broken cause) →
      exitCode (run h arguments).outcome = 1 ∧
      ∃ line, CommandLine.ofArguments arguments = .ok line ∧
        ∃ path ∈ line.paths, Path.breakdown? path = some cause) ∧
    ∀ line manifest, CommandLine.ofArguments arguments = .ok line →
      line.Asks h.files manifest →
      Refines h (Request.order line manifest) (run h arguments) (stderr h arguments) := by
  refine ⟨exitCode_run_eq_two_iff, ?_, ?_⟩
  · intro cause hrequest
    refine ⟨?_, Request.ofArguments_eq_broken hrequest⟩
    rw [run_of_usageFault hrequest]
    rfl
  · intro line manifest hline hasks
    have hrequest := Request.ofArguments_eq_ok_validate_iff.mpr ⟨line, manifest, hline, hasks, rfl⟩
    rw [run_of_validate hrequest, stderr_of_validate hrequest]
    exact refines h _

end

section

open scoped BuiltIn

/-- A host with a resource of the namespace `team`, and credentials that name no namespace. -/
def teamHost : Host where
  files path :=
    if path = "jenkins.yaml" then .bytes (Bytes.ofString (
      "kind: Jenkins\n" ++
      "metadata: \x7bname: ci, namespace: team\x7d\n" ++
      "spec: \x7bbackup: AmazonS3\x7d\n"))
    else if path = "secrets.yaml" then .bytes (Bytes.ofString (
      "kind: Secret\n" ++
      "metadata: \x7bname: op-backup-credentials-ci\x7d\n" ++
      "stringData: \x7bsecret-key: s, access-key: a\x7d\n"))
    else .missing
  surroundings := .bare
  environment := some "op"

/-- The resource of that host is safe to reconcile, and not only in the namespace on the command
line. -/
theorem run_teamHost :
    let line : CommandLine :=
      ⟨[.setting .secrets "secrets.yaml", .setting .defaultNamespace "elsewhere"], ["jenkins.yaml"]⟩
    let arguments : List Text := ["jenkins.yaml", "-s", "secrets.yaml", "-n", "elsewhere"]
    CommandLine.ofArguments arguments = .ok line ∧ line.Asks teamHost.files "jenkins.yaml" ∧
      (Request.order line "jenkins.yaml").judgement teamHost = .ok true ∧
      exitCode (run teamHost arguments).outcome = 0 := by
  intro line arguments
  have hline : CommandLine.ofArguments arguments = .ok line := by decide
  have hasks : line.Asks teamHost.files "jenkins.yaml" := by constructor <;> decide
  have hjudgement : (Request.order line "jenkins.yaml").judgement teamHost = .ok true := by
    decide +kernel
  refine ⟨hline, hasks, hjudgement, ?_⟩
  exact ((run_refines teamHost arguments).2.2 line _ hline hasks).zero.mpr hjudgement

/-- A control sequence in the path is not repeated to the reader, so a rejected manifest is not
always reported word for word. A path with a lone surrogate does not even get the exit code 2. -/
theorem not_reported_verbatim :
    let h : Host := ⟨fun _ => .missing, .bare, none⟩
    let red : Text := "\x1b[31mm.yaml"
    let lone : Text := [.surrogate 0]
    (CommandLine.ofArguments [red] = .ok ⟨[], [red]⟩ ∧
      (⟨[], [red]⟩ : CommandLine).Asks h.files red ∧
      (Request.order ⟨[], [red]⟩ red).judgement h =
        .error (.manifest (.rejected (.file red .missing))) ∧
      stderr h [red] ≠ errorLine (ManifestDefect.file red .missing).message) ∧
    (Request.ofArguments h.files ["m.yaml", "-s", lone] = .error (.broken .unencodablePath) ∧
      exitCode (run h ["m.yaml", "-s", lone]).outcome ≠ 2) := by
  intro h red lone
  refine ⟨⟨?_, ?_, ?_, ?_⟩, ?_, ?_⟩
  · decide
  · constructor <;> decide
  · decide
  · decide
  · decide
  · decide

end

end Command

end JenkinsAdmission
