import JenkinsAdmission.Command.Arguments
import JenkinsAdmission.Proofs.Outcome

/-!
# Requests

Which command lines ask for what? `CommandLine.Asks` describes those that ask for the validation of
a manifest, and `Request.ofArguments_eq_ok_validate_iff` says that the requests for a validation
come from them and from no others.

Reading the arguments may break down, but `Request.ofArguments_eq_broken` leaves a single reason for
that: a path that the system refuses to look for.
-/

namespace JenkinsAdmission

/-- A command line that asks for the validation of a manifest. -/
structure CommandLine.Asks (files : Text → FileState) (line : CommandLine) (manifest : Text) :
    Prop where
  /-- nobody asks for help -/
  noHelp : line.has .help = false
  /-- nobody asks for the version -/
  noVersion : line.has .version = false
  /-- there is nothing besides options and the manifest -/
  onlyManifest : line.others = [manifest]
  /-- the file with secrets, if there is one, exists -/
  secretsPath : Request.checkPath? files .secrets (line.value? .secrets) = .ok ()
  /-- the manifest is no directory -/
  manifestPath : Request.checkPath .manifest manifest (files manifest) = .ok ()

namespace Request

variable {files : Text → FileState} {line : CommandLine} {o : Order}

/-- A command line amounts to an order when its options ask for one. -/
theorem ofLine_eq_ok_validate_iff :
    ofLine files line = .ok (.validate o) ↔
      ∃ manifest, line.Asks files manifest ∧ o = order line manifest := by
  unfold ofLine
  constructor
  · intro h
    cases hhelp : line.has .help with
    | true => simp [hhelp] at h
    | false =>
      simp only [hhelp, Bool.false_eq_true, if_false, Except.bind_eq_ok_iff] at h
      obtain ⟨_, hsecrets, _, hpath, h⟩ := h
      -- what is left depends on how many other arguments there are, and on the version
      rcases hothers : line.others with _ | ⟨manifest, _ | ⟨extra, rest⟩⟩
      · cases hversion : line.has .version <;>
          simp [hothers, hversion, CommandLine.manifest?, Except.pure_eq, Except.throw_eq] at h
      · cases hversion : line.has .version with
        | true => simp [hothers, hversion, Except.pure_eq] at h
        | false =>
          simp only [hothers, hversion, CommandLine.manifest?, Except.pure_eq, List.tail_cons,
            List.isEmpty_nil, Bool.not_true, Bool.false_eq_true, if_false, List.head?_cons,
            Except.ok.injEq, Request.validate.injEq] at h
          rw [CommandLine.manifest?, hothers] at hpath
          exact ⟨manifest, ⟨hhelp, hversion, hothers, hsecrets, hpath⟩, h.symm⟩
      · simp [hothers, Except.throw_eq] at h
  · rintro ⟨manifest, h, rfl⟩
    have hmanifest : line.manifest? = some manifest := by
      rw [CommandLine.manifest?, h.onlyManifest, List.head?_cons]
    have hpath : checkPath? files .manifest (some manifest) = .ok () := h.manifestPath
    simp only [h.noHelp, h.secretsPath, hmanifest, hpath, h.noVersion, h.onlyManifest,
      Except.ok_bind, Except.pure_eq, List.tail_cons, List.isEmpty_nil, Bool.not_true,
      Bool.false_eq_true, if_false]

/-- The requests for a validation are those of the command lines that ask for one. -/
theorem ofArguments_eq_ok_validate_iff {arguments : List Text} :
    ofArguments files arguments = .ok (.validate o) ↔
      ∃ line manifest, CommandLine.ofArguments arguments = .ok line ∧ line.Asks files manifest ∧
        o = order line manifest := by
  simp only [ofArguments, Except.bind_eq_ok_iff, Except.mapError_eq_ok_iff,
    ofLine_eq_ok_validate_iff]
  constructor
  · rintro ⟨line, hline, manifest, h, ho⟩
    exact ⟨line, manifest, hline, h, ho⟩
  · rintro ⟨line, manifest, hline, h, ho⟩
    exact ⟨line, hline, manifest, h, ho⟩

/-- The check of a path breaks down only at the path itself. -/
theorem checkPath_eq_broken {argument : PathArgument} {path : Text} {state : FileState}
    {cause : Breakdown} (h : checkPath argument path state = .error (.broken cause)) :
    Path.breakdown? path = some cause := by
  unfold checkPath at h
  cases hbreakdown : Path.breakdown? path with
  | some other =>
    simp only [hbreakdown, Except.error.injEq, UsageFault.broken.injEq] at h
    rw [h]
  | none =>
    rcases state with _ | why | bytes
    · cases argument <;> simp [hbreakdown] at h
    · cases why <;> cases argument <;> simp [hbreakdown] at h
    · simp [hbreakdown] at h

theorem checkPath?_eq_broken {argument : PathArgument} {path? : Option Text} {cause : Breakdown}
    (h : checkPath? files argument path? = .error (.broken cause)) :
    ∃ path ∈ path?.toList, Path.breakdown? path = some cause := by
  cases path? with
  | none => cases h
  | some path => exact ⟨path, List.mem_singleton_self path, checkPath_eq_broken h⟩

/-- Reading arguments breaks down over nothing but a path that the system refuses to look for. -/
theorem ofArguments_eq_broken {arguments : List Text} {cause : Breakdown}
    (h : ofArguments files arguments = .error (.broken cause)) :
    ∃ line, CommandLine.ofArguments arguments = .ok line ∧
      ∃ path ∈ line.paths, Path.breakdown? path = some cause := by
  rw [ofArguments] at h
  cases hline : CommandLine.ofArguments arguments with
  | error defect => simp [hline] at h
  | ok line =>
    rw [hline, Except.mapError_ok, Except.ok_bind, ofLine] at h
    refine ⟨line, rfl, ?_⟩
    cases hhelp : line.has .help with
    | true => simp [hhelp] at h
    | false =>
      simp only [hhelp, Bool.false_eq_true, if_false, Except.bind_eq_error_iff] at h
      rcases h with hsecrets | ⟨_, -, hmanifest | ⟨_, -, hrest⟩⟩
      · obtain ⟨path, hpath, hcause⟩ := checkPath?_eq_broken hsecrets
        exact ⟨path, List.mem_append_left _ hpath, hcause⟩
      · obtain ⟨path, hpath, hcause⟩ := checkPath?_eq_broken hmanifest
        exact ⟨path, List.mem_append_right _ hpath, hcause⟩
      · -- what comes after the paths is rejected or accepted
        exfalso
        rcases hothers : line.others with _ | ⟨manifest, _ | ⟨extra, rest⟩⟩ <;>
          cases hversion : line.has .version <;>
            simp [hothers, hversion, CommandLine.manifest?, Except.pure_eq,
              Except.throw_eq] at hrest

end Request

end JenkinsAdmission
