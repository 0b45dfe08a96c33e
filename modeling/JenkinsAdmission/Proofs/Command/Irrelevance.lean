import JenkinsAdmission.BuiltIn
import JenkinsAdmission.Proofs.Command.Refinement
import JenkinsAdmission.Proofs.Gate.Congruence
import JenkinsAdmission.Proofs.Manifest.Relevance

/-!
# Documents that do not matter to the command

What the command does with a file of secrets depends on the documents in it that matter for the
resource: `Command.run_eq_of_relevant` compares two hosts whose files of secrets differ in other
documents, and finds the same run on both. From a run follow its exit code and what it shows. The
notes for whoever debugs are the same as well (`Gate.notes_congr`).
-/

namespace JenkinsAdmission

section

variable [Platform]

/-! ## Stores that agree in a namespace -/

omit [Platform] in
/-- Equal outcomes are alike. -/
theorem Alike.of_eq {R : SecretData → SecretData → Prop} (hrefl : ∀ d, R d d)
    {x y : Except LookupFault SecretData} (h : x = y) : Alike R x y := by
  subst h
  cases x with
  | error fault => exact .inl ⟨fault, rfl, rfl⟩
  | ok d => exact .inr ⟨d, d, rfl, rfl, hrefl d⟩

/-- Validation reads nothing but secrets of the namespace of the resource. -/
theorem Jenkins.agree_of_get_eq {j : Jenkins} {a b : Answers}
    (h : ∀ name, a (j.secret name) = b (j.secret name)) (operator : Text) :
    j.Agree operator a b where
  deployKeys := by
    intro job _ ref _
    refine .of_eq ?_ (h ref.name)
    intro d secret
    rfl
  credentials := by
    intro _
    refine .of_eq ?_ (h (backupSecretName operator j.name))
    intro d
    rfl

omit [Platform] in
/-- Secrets that agree in a namespace answer alike there. -/
theorem Manifest.AgreeIn.get_eq {ns : Text} {s t : Secrets} (h : AgreeIn ns s t) (name : Text) :
    s.store.get ⟨ns, name⟩ = t.store.get ⟨ns, name⟩ := by
  simp only [Secrets.store, h name]

/-- Of two stores that agree in the namespace of the resource, the gate cannot tell which it has. -/
theorem Gate.validate_eq_of_agreeIn (g : Gate) (environment : Option Text) {j : Jenkins}
    {s t : Secrets} (h : Manifest.AgreeIn j.ns s t) :
    g.validate environment s.store j = g.validate environment t.store j :=
  validate_congr g environment rfl (Jenkins.agree_of_get_eq h.get_eq _)

/-! ## Notes -/

section

variable {s t : Store} {ns : Text}

namespace SeedJob

omit [Platform] in
/-- The notes on a seed job come from the namespace that it is in. -/
theorem notes_congr (hsource : s.source = t.source)
    (h : ∀ name, s.get ⟨ns, name⟩ = t.get ⟨ns, name⟩) (job : SeedJob) :
    job.notes s ns = job.notes t ns := by
  simp only [notes, Store.notes, hsource, h]

/-- The notes go on as far as the checks do. -/
theorem notesAll_congr (hsource : s.source = t.source)
    (h : ∀ name, s.get ⟨ns, name⟩ = t.get ⟨ns, name⟩) (jobs : List SeedJob) :
    notesAll s ns jobs = notesAll t ns jobs := by
  induction jobs with
  | nil => rfl
  | cons job rest ih =>
    have hfinding : job.finding s.get ns = job.finding t.get ns :=
      finding_congr fun ref _ => .of_eq (fun _ _ => rfl) (h ref.name)
    rw [notesAll, notesAll, notes_congr hsource h job, check_congr hsource hfinding, ih]

end SeedJob

/-- The notes on a resource depend on the secrets of its namespace. -/
theorem Gate.notes_congr (g : Gate) (environment : Option Text) {j : Jenkins}
    (hsource : s.source = t.source) (h : ∀ name, s.get (j.secret name) = t.get (j.secret name)) :
    g.notes environment s j = g.notes environment t j := by
  have hagree := Jenkins.agree_of_get_eq h (g.operator environment)
  have hbackup : j.backupNotes s (g.operator environment) =
      j.backupNotes t (g.operator environment) := by
    simp only [Jenkins.backupNotes, Store.notes, hsource, h]
  rw [notes, notes, SeedJob.notesAll_congr hsource h, Jenkins.checkSeedJobs_congr hsource hagree,
    Jenkins.checkBackup_congr hsource hagree, hbackup]

end

/-! ## Files that are read -/

/-- Only a file with bytes has documents. -/
theorem Manifest.exists_bytes_of_documents {path : Text} {file : FileState}
    {documents : List Value} (h : Manifest.documents path file = .ok documents) :
    ∃ b, file = .bytes b := by
  cases file with
  | missing => cases h
  | unreadable why => cases h
  | bytes b => exact ⟨b, rfl⟩

/-- Only a file with bytes holds a resource. -/
theorem Manifest.exists_bytes_of_loadJenkins {defaultNamespace path : Text} {file : FileState}
    {j : Jenkins} (h : Manifest.loadJenkins defaultNamespace path file = .ok j) :
    ∃ b, file = .bytes b := by
  rw [loadJenkins, Except.bind_eq_ok_iff] at h
  obtain ⟨document, hmapping, -⟩ := h
  rw [mapping?, Except.bind_eq_ok_iff] at hmapping
  obtain ⟨documents, hdocuments, -⟩ := hmapping
  exact exists_bytes_of_documents hdocuments

omit [Platform] in
/-- The check of a path does not look into the file. -/
theorem Request.checkPath_bytes {argument : PathArgument} {path : Text} {state : FileState}
    (h : checkPath argument path state = .ok ()) (b : Bytes) :
    checkPath argument path (.bytes b) = .ok () := by
  unfold checkPath at h ⊢
  cases hbreakdown : Path.breakdown? path with
  | some cause => simp [hbreakdown] at h
  | none => rfl

omit [Platform] in
/-- The same command line asks for a validation wherever its files can be read. -/
theorem CommandLine.Asks.of_readable {files files' : Text → FileState} {line : CommandLine}
    {manifest path : Text} (h : line.Asks files manifest)
    (hsecrets : line.value? .secrets = some path) (hpath : ∃ b, files' path = .bytes b)
    (hmanifest : ∃ b, files' manifest = .bytes b) : line.Asks files' manifest := by
  obtain ⟨b, hb⟩ := hpath
  obtain ⟨c, hc⟩ := hmanifest
  refine ⟨h.noHelp, h.noVersion, h.onlyManifest, ?_, ?_⟩
  · have hchecked := h.secretsPath
    rw [hsecrets] at hchecked ⊢
    rw [Request.checkPath?, hb]
    exact Request.checkPath_bytes hchecked b
  · rw [hc]
    exact Request.checkPath_bytes h.manifestPath c

/-! ## Two runs -/

namespace Command

variable {h h' : Host} {o : Order} {path : Text} {j : Jenkins}

/-- The order is for a resource, and for secrets of which the same matter on two hosts. -/
structure Agrees (o : Order) (path : Text) (j : Jenkins) (h h' : Host) : Prop where
  /-- the operator in the environment is the same -/
  environment : h.environment = h'.environment
  /-- the secrets are in a file -/
  secrets : o.secrets = some path
  /-- the resource is loaded on one host -/
  resource : o.resource h = .ok j
  /-- and on the other one -/
  resource' : o.resource h' = .ok j
  /-- the same secrets matter, or the same fault -/
  sameIn : Manifest.SameIn j.ns (Manifest.loadSecrets j.ns path (h.files path))
    (Manifest.loadSecrets j.ns path (h'.files path))

/-- Hosts that agree are opened alike. -/
theorem Agrees.opening_eq (hagrees : Agrees o path j h h') : opening h o = opening h' o := by
  rw [opening, opening, hagrees.secrets]

/-- Either the same fault keeps both stores closed, or both are open and agree. -/
theorem Agrees.cases (hagrees : Agrees o path j h h') :
    (∃ obstacle, o.store h j.ns = .error obstacle ∧ o.store h' j.ns = .error obstacle) ∨
      ∃ s t : Secrets, o.Opens h j s.store ∧ o.Opens h' j t.store ∧
        Manifest.AgreeIn j.ns s t := by
  -- only the secrets of the namespace enter into what is opened
  have hstore : ∀ g : Host, o.store g j.ns =
      ((Manifest.loadSecrets j.ns path (g.files path)).map Secrets.store).mapError .manifest := by
    intro g
    rw [Order.store, hagrees.secrets]
  have hsame := hagrees.sameIn
  generalize hx : Manifest.loadSecrets j.ns path (h.files path) = x at hsame
  generalize hy : Manifest.loadSecrets j.ns path (h'.files path) = y at hsame
  cases hsame with
  | failed fault =>
    refine .inl ⟨.manifest fault, ?_, ?_⟩
    · rw [hstore h, hx]
      rfl
    · rw [hstore h', hy]
      rfl
  | @loaded s t hagree =>
    refine .inr ⟨s, t, ⟨hagrees.resource, ?_⟩, ⟨hagrees.resource', ?_⟩, hagree⟩
    · rw [hstore h, hx]
      rfl
    · rw [hstore h', hy]
      rfl

/-- The judgement is the same on both hosts, and so is the course. -/
theorem Agrees.judgement_course_eq (hagrees : Agrees o path j h h') :
    o.judgement h = o.judgement h' ∧ course h o = course h' o := by
  rcases hagrees.cases with ⟨obstacle, hstore, hstore'⟩ | ⟨s, t, hopens, hopens', hagree⟩
  · have hfails : o.FailsWith h obstacle := .unopened hagrees.resource hstore
    have hfails' : o.FailsWith h' obstacle := .unopened hagrees.resource' hstore'
    refine ⟨by rw [hfails.judgement_eq, hfails'.judgement_eq], ?_⟩
    rw [course, course, hagrees.resource, hagrees.resource']
    simp only [hstore, hstore', hagrees.opening_eq]
  · have hvalidation : o.validation h s.store j = o.validation h' t.store j := by
      rw [Order.validation, Order.validation, hagrees.environment]
      exact Gate.validate_eq_of_agreeIn _ _ hagree
    refine ⟨?_, ?_⟩
    · rw [hopens.judgement_eq, hopens'.judgement_eq, hvalidation]
    · rw [course_of_opens hopens, course_of_opens hopens', hvalidation, hagrees.opening_eq]

/-- The notes are the same on both hosts. -/
theorem Agrees.notes_eq (hagrees : Agrees o path j h h') : notes h o = notes h' o := by
  have hload : ∀ {g : Host}, o.resource g = .ok j →
      Manifest.loadJenkins o.defaultNamespace o.manifest (g.files o.manifest) = .ok j :=
    fun hresource => Except.mapError_eq_ok_iff.mp hresource
  simp only [notes, notesAfter, hload hagrees.resource, hload hagrees.resource', openStore_eq]
  rcases hagrees.cases with ⟨obstacle, hstore, hstore'⟩ | ⟨s, t, hopens, hopens', hagree⟩
  · rw [hstore, hstore']
  · have hnotes : ∀ g : Gate, g.notes h'.environment s.store j = g.notes h'.environment t.store j :=
      fun g => g.notes_congr h'.environment rfl hagree.get_eq
    simp only [hopens.opened, hopens'.opened, hagrees.environment, hnotes]

/-- **Other documents do not matter.** Two hosts have files of secrets under one name, and the same
documents are left in both without those that declare no secret, and without those that declare a
secret of another namespace than that of the resource and can be loaded on their own. Then the
command runs the same on both: it has the same outcome, shows the same and prints the same, notes
included. -/
theorem run_eq_of_relevant {arguments : List Text} {line : CommandLine} {manifest : Text}
    {documents documents' : List Value}
    (hline : CommandLine.ofArguments arguments = .ok line) (hasks : line.Asks h.files manifest)
    (hsecrets : line.value? .secrets = some path) (henvironment : h.environment = h'.environment)
    (hresource : (Request.order line manifest).resource h = .ok j)
    (hresource' : (Request.order line manifest).resource h' = .ok j)
    (hdocuments : Manifest.documents path (h.files path) = .ok documents)
    (hdocuments' : Manifest.documents path (h'.files path) = .ok documents')
    (hsame : List.Forall₂ Value.Same (documents.filter (Manifest.isRelevant path j.ns))
      (documents'.filter (Manifest.isRelevant path j.ns))) :
    run h arguments = run h' arguments ∧ stderr h arguments = stderr h' arguments := by
  have hload : ∀ {g : Host} {docs : List Value}, Manifest.documents path (g.files path) = .ok docs →
      Manifest.loadSecrets j.ns path (g.files path) = Manifest.secretsOf path j.ns docs := by
    intro g docs hdocs
    rw [Manifest.loadSecrets, hdocs, Except.ok_bind]
  have hagrees : Agrees (Request.order line manifest) path j h h' := by
    refine ⟨henvironment, hsecrets, hresource, hresource', ?_⟩
    rw [hload hdocuments, hload hdocuments']
    exact Manifest.secretsOf_sameIn hsame
  have hmanifest : ∃ b, h'.files manifest = .bytes b := by
    rw [Order.resource, Except.mapError_eq_ok_iff] at hresource'
    exact Manifest.exists_bytes_of_loadJenkins hresource'
  -- the check of the paths does not look into the files, so the second host passes it too
  have hasks' : line.Asks h'.files manifest :=
    hasks.of_readable hsecrets (Manifest.exists_bytes_of_documents hdocuments') hmanifest
  have hrequest := Request.ofArguments_eq_ok_validate_iff.mpr ⟨line, manifest, hline, hasks, rfl⟩
  have hrequest' := Request.ofArguments_eq_ok_validate_iff.mpr ⟨line, manifest, hline, hasks', rfl⟩
  have hanswer : answer h (Request.order line manifest) =
      answer h' (Request.order line manifest) := by
    obtain ⟨hjudgement, hcourse⟩ := hagrees.judgement_course_eq
    rw [answer, answer, hjudgement, hcourse]
  constructor
  · -- what is shown, and the notes on stderr
    rw [run_of_validate hrequest, run_of_validate hrequest', hanswer]
  · rw [stderr_of_validate hrequest, stderr_of_validate hrequest', hanswer, noted, noted,
      hagrees.notes_eq]

end Command

end

namespace Command

open scoped BuiltIn

/-- A resource with a deploy key in the secret `k`. -/
def deployManifest : FileState := .bytes (Bytes.ofString (
  "kind: Jenkins\n" ++
  "metadata: \x7bname: ci\x7d\n" ++
  "spec: \x7bseedJobs: [\x7bprivateKey: \x7bsecretKeyRef: \x7bname: k\x7d\x7d\x7d]\x7d\n"))

/-- A host with that resource and a file of secrets. -/
def deployHost (secrets : FileState) : Host where
  files path :=
    if path = "jenkins.yaml" then deployManifest
    else if path = "secrets.yaml" then secrets
    else .missing
  surroundings := .bare
  environment := none

/-- A file with the secret `k` and nothing else. -/
def plainSecrets : FileState := .bytes (Bytes.ofString (
  "kind: Secret\n" ++
  "metadata: \x7bname: k\x7d\n"))

/-- A file with a document of another kind in front of that secret, and behind it a secret of the
same name in another namespace. -/
def crowdedSecrets : FileState := .bytes (Bytes.ofString (
  "kind: Other\n" ++
  "---\n" ++
  "kind: Secret\n" ++
  "metadata: \x7bname: k\x7d\n" ++
  "---\n" ++
  "kind: Secret\n" ++
  "metadata: \x7bname: k, namespace: x\x7d\n"))

/-- The command does not see the difference, though there is one document in one of the files and
three are in the other. -/
theorem run_crowdedSecrets :
    let arguments : List Text := ["jenkins.yaml", "-s", "secrets.yaml"]
    ∃ documents documents', Manifest.documents "secrets.yaml" plainSecrets = .ok documents ∧
      Manifest.documents "secrets.yaml" crowdedSecrets = .ok documents' ∧
      documents.length = 1 ∧ documents'.length = 3 ∧
      run (deployHost plainSecrets) arguments = run (deployHost crowdedSecrets) arguments ∧
      stderr (deployHost plainSecrets) arguments = stderr (deployHost crowdedSecrets) arguments := by
  intro arguments
  let line : CommandLine := ⟨[.setting .secrets "secrets.yaml"], ["jenkins.yaml"]⟩
  let j : Jenkins := ⟨"ci", "default", [⟨"", "", some ⟨"k", ""⟩, "", "", ""⟩], .noBackup⟩
  have hline : CommandLine.ofArguments arguments = .ok line := by decide
  have hasks : line.Asks (deployHost plainSecrets).files "jenkins.yaml" := by
    constructor <;> decide
  have hsecrets : line.value? .secrets = some "secrets.yaml" := by decide
  have hload : Manifest.loadJenkins "default" "jenkins.yaml" deployManifest = .ok j := by
    decide +kernel
  have hresource : ∀ secrets, (Request.order line "jenkins.yaml").resource (deployHost secrets) =
      .ok j := by
    intro secrets
    show (Manifest.loadJenkins "default" "jenkins.yaml" deployManifest).mapError _ = _
    rw [hload, Except.mapError_ok]
  have henvironment : ∀ secrets, (deployHost secrets).environment = none := fun secrets => rfl
  have hfiles : ∀ secrets, (deployHost secrets).files "secrets.yaml" = secrets := by
    intro secrets
    have hother : ("secrets.yaml" : Text) ≠ "jenkins.yaml" := by decide
    simp only [deployHost, hother, if_false, if_true]
  have hread : (do
      let documents ← Manifest.documents "secrets.yaml" plainSecrets
      let documents' ← Manifest.documents "secrets.yaml" crowdedSecrets
      pure (documents.length, documents'.length,
        decide (documents.filter (Manifest.isRelevant "secrets.yaml" j.ns) =
          documents'.filter (Manifest.isRelevant "secrets.yaml" j.ns)))) = .ok (1, 3, true) := by
    decide +kernel
  simp only [Except.bind_eq_ok_iff, Except.pure_eq, Except.ok.injEq, Prod.mk.injEq,
    decide_eq_true_iff] at hread
  obtain ⟨documents, hdocuments, documents', hdocuments', hone, hthree, hrelevant⟩ := hread
  refine ⟨documents, documents', hdocuments, hdocuments', hone, hthree, ?_⟩
  refine run_eq_of_relevant hline hasks hsecrets (by rw [henvironment, henvironment])
    (hresource _) (hresource _) (by rw [hfiles, hdocuments]) (by rw [hfiles, hdocuments']) ?_
  rw [hrelevant]
  exact List.forall₂_same.mpr fun v _ => .refl v

end Command

end JenkinsAdmission
