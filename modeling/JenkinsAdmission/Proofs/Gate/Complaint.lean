import JenkinsAdmission.Gate.Backup
import JenkinsAdmission.Gate.SeedJobs
import JenkinsAdmission.Proofs.Console
import JenkinsAdmission.Proofs.Key.Classification

/-!
# Complaints have tags of our own

A complaint names seed jobs, secrets and keys, and others have chosen these names. They are
highlighted, so the only live tags of a complaint are our own (`Complaint.isOwn_warning`), and
showing it succeeds on every console (`complain_eq`).

Two texts are quoted as they are: the label of a PEM block, which has no brackets, and the words of
the reader of private keys, which have no live tags.
-/

namespace JenkinsAdmission

open Markup

/-! ## The words about a defect -/

/-- The label of a block is plain. -/
theorem Pem.isPlain_label {material : Bytes} {content : Pem.Content}
    (h : Pem.decode? material = some content) : IsPlain (Text.ofAscii content.label) := by
  have halphabet : ∀ b ∈ Pem.labelAlphabet,
      CodePoint.ofNat b.toNat ≠ .scalar '[' ∧ CodePoint.ofNat b.toNat ≠ slash := by
    decide +kernel
  intro c hc
  obtain ⟨b, hb, rfl⟩ := List.mem_map.mp hc
  exact halphabet b (Pem.label_of_decode? h b hb)

/-- The reason why a key is refused has no live tags. -/
theorem KeyDefect.liveTags_reason [Platform] {material : Bytes} {defect : KeyDefect}
    (h : keyDefect? material = .ok (some defect)) : liveTags defect.reason = [] := by
  cases defect with
  | undecodable | notRsa => exact IsPlain.liveTags_eq_nil (by decide)
  | inconsistent defect =>
    exact IsPlain.liveTags_eq_nil (by cases defect <;> decide)
  | unparsable words =>
    exact (liveTags_append_of_plain (by decide) words.text).trans words.untagged
  | unsupported label =>
    have hquoted : IsPlain (Text.ofAscii label) := by
      cases hdecode : Pem.decode? material with
      | none => simp [keyDefect?, hdecode] at h
      | some content =>
        by_cases hsupported : content.label ∈ privateKeyLabels
        · -- a block with the label of a private key is not refused for its label
          rw [keyDefect?_of_supported hdecode hsupported, contentDefect?] at h
          cases hread : Platform.readKey? content.der with
          | none => simp [hread] at h
          | some reading =>
            rw [hread] at h
            have hdefect : reading.defect? = some (.unsupported label) := Except.ok.inj h
            cases reading <;> simp [KeyReading.defect?] at hdefect
        · rw [keyDefect?_of_unsupported hdecode hsupported] at h
          obtain rfl : content.label = label := by simpa using h
          exact Pem.isPlain_label hdecode
    exact IsPlain.liveTags_eq_nil ((IsPlain.append (by decide) hquoted).append (by decide))

/-- The name of a failure brings no tags. -/
theorem KeyFailure.isPlain_name (failure : KeyFailure) : IsPlain failure.name := by
  cases failure <;> decide

namespace SeedJobDefect

theorem isOwn_secretMissing (c : Coordinate) : IsOwn (secretMissing c).message := by
  rw [message, List.append_assoc]
  exact isOwn_naming (by decide) _ (IsPlain.isOwn (by decide))

theorem isOwn_keyEmpty (ref : SecretKeyRef) : IsOwn (keyEmpty ref).message := by
  simp only [message, List.append_assoc]
  exact isOwn_naming (by decide) ref.key
    (isOwn_naming (by decide) ref.name (IsPlain.isOwn (by decide)))

/-- What is said about an invalid key brings the tags of its reason, and no others. -/
theorem isOwn_keyInvalid {defect : KeyDefect} (h : liveTags defect.reason = []) :
    IsOwn (keyInvalid defect).message := by
  have hbefore : IsPlain ("private key is invalid (" ++ defect.failure.name ++ "): " : Text) :=
    (IsPlain.append (by decide) defect.failure.isPlain_name).append (by decide)
  exact hbefore.isOwn_append (.of_liveTags_eq_nil h)

end SeedJobDefect

namespace SeedJob

/-- The words about the fields of a seed job are our own. -/
theorem isOwn_of_mem_ownDefects {job : SeedJob} {defect : SeedJobDefect}
    (h : defect ∈ job.ownDefects) : IsOwn defect.message := by
  rcases List.mem_append.mp h with h | h
  · split at h
    · rw [List.mem_singleton.mp h]
      exact IsPlain.isOwn (by decide)
    · cases h
  · split at h
    · rw [List.mem_singleton.mp h]
      exact IsPlain.isOwn (by decide)
    · cases h

/-- The words about its key are our own too, whatever the reader of keys remarked. -/
theorem isOwn_of_keyDefect? [Platform] {c : Coordinate} {ref : SecretKeyRef}
    {answer : Option SecretData} {defect : SeedJobDefect}
    (h : keyDefect? c ref answer = .ok (some defect)) : IsOwn defect.message := by
  unfold keyDefect? at h
  split at h
  · cases h
    exact SeedJobDefect.isOwn_secretMissing c
  · next data =>
    split at h
    · cases h
      exact SeedJobDefect.isOwn_keyEmpty ref
    · cases hmaterial : JenkinsAdmission.keyDefect? (data.value ref.key) with
      | error cause => simp [hmaterial, Except.map] at h
      | ok found =>
        obtain ⟨keyDefect, rfl, rfl⟩ :
            ∃ d, found = some d ∧ SeedJobDefect.keyInvalid d = defect := by
          simpa [hmaterial, Except.map] using h
        exact SeedJobDefect.isOwn_keyInvalid (KeyDefect.liveTags_reason hmaterial)

end SeedJob

/-! ## Complaints as they are shown -/

namespace Complaint

/-- A complaint as it is shown. -/
def warning (c : Complaint) : Display :=
  .message .warning c.text

/-- Complaints as they are shown. -/
def shown (complaints : List Complaint) : Trace :=
  complaints.map fun c => .displayed c.warning

/-- A warning about a seed job shows its identifier escaped. -/
theorem isOwn_seedJob (job : SeedJob) {defect : SeedJobDefect} (h : IsOwn defect.message) :
    (seedJob job defect).warning.IsOwn := by
  refine Display.isOwn_message .warning ?_
  simp only [text, List.append_assoc]
  exact isOwn_naming (by decide) _ (IsPlain.isOwn_append (by decide) h)

/-- A warning about a credential shows its names escaped. -/
theorem isOwn_credential (secretName key : Text) :
    (credential secretName key).warning.IsOwn := by
  refine Display.isOwn_message .warning ?_
  simp only [text, List.append_assoc]
  exact isOwn_naming (by decide) _ (IsPlain.isOwn_append (by decide) (isOwn_highlight key))

end Complaint

variable [Platform]

/-- Complaints with tags of our own are all shown. -/
theorem complain_eq {ε : Type} [BreaksDown ε] {complaints : List Complaint}
    (h : ∀ c ∈ complaints, c.warning.IsOwn) :
    complain (ε := ε) complaints = ⟨.ok (), Complaint.shown complaints⟩ := by
  induction complaints with
  | nil => rfl
  | cons c rest ih =>
    obtain ⟨hc, hrest⟩ := List.forall_mem_cons.mp h
    have hsay : Run.say (ε := ε) .warning c.text = ⟨.ok (), [.displayed c.warning]⟩ :=
      Run.display_of_isOwn hc
    rw [complain, ih hrest, hsay]
    rfl

/-- What is found wrong with a job by itself can be shown. -/
theorem SeedJob.complain_ownDefects (job : SeedJob) :
    complain (ε := LookupFault) (job.ownDefects.map (.seedJob job)) =
      ⟨.ok (), Complaint.shown (job.ownDefects.map (.seedJob job))⟩ :=
  complain_eq fun _ hc => by
    obtain ⟨defect, hdefect, rfl⟩ := List.mem_map.mp hc
    exact Complaint.isOwn_seedJob job (isOwn_of_mem_ownDefects hdefect)

/-- What is found wrong with the key of a job can be shown. -/
theorem SeedJob.complain_keyDefect? {job : SeedJob} {c : Coordinate} {ref : SecretKeyRef}
    {answer : Option SecretData} {defect : Option SeedJobDefect}
    (h : keyDefect? c ref answer = .ok defect) :
    complain (ε := LookupFault) (defect.toList.map (.seedJob job)) =
      ⟨.ok (), Complaint.shown (defect.toList.map (.seedJob job))⟩ :=
  complain_eq fun _ hc => by
    obtain ⟨found, hfound, rfl⟩ := List.mem_map.mp hc
    rw [Option.mem_toList] at hfound
    rw [hfound] at h
    exact Complaint.isOwn_seedJob job (isOwn_of_keyDefect? h)

/-- Gaps in credentials can be shown. -/
theorem complain_credentials (secretName : Text) (keys : List Text) :
    complain (ε := LookupFault) (keys.map (.credential secretName)) =
      ⟨.ok (), Complaint.shown (keys.map (.credential secretName))⟩ :=
  complain_eq fun _ hc => by
    obtain ⟨key, -, rfl⟩ := List.mem_map.mp hc
    exact Complaint.isOwn_credential secretName key

end JenkinsAdmission
