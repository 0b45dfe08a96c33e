import JenkinsAdmission.Manifest.Jenkins
import JenkinsAdmission.Proofs.Outcome
import JenkinsAdmission.Proofs.Value

/-!
# How loading ends

Loading a manifest ends with a value, with a rejection, which has a wording, or with a
**breakdown**, which has none. `Manifest.Settled` are the first two endings and `Manifest.Breaks` is
the third.

Loading goes from part to part. When does a sequence of parts break down? In general this depends on
what the parts come to (`Manifest.breaks_bind_iff`). A part that rejects nothing is **lenient**:
after such a part the next one is reached or the sequence is broken already, so it breaks down if
one of its parts does, whichever that is (`Manifest.Lenient.breaks_bind_iff`).
-/

namespace JenkinsAdmission

/-- A value whose text cannot be written, for an integer in it that has too many digits or for
values too deep inside one another (see `Value.isWritingCause_written`). -/
def Value.Unwritable [Platform] (v : Value) : Prop :=
  ∃ cause, v.written = .error cause

namespace Manifest

variable {ε α β : Type}

/-! ## Endings -/

/-- Loading ended with a value or with a rejection. -/
def Settled (r : Except ManifestFault α) : Prop :=
  (∃ a, r = .ok a) ∨ ∃ defect, r = .error (.rejected defect)

/-- Loading broke down. -/
def Breaks (r : Except ManifestFault α) : Prop :=
  ∃ cause, r = .error (.broken cause)

/-- An ending that is not settled breaks down, and the other way round. -/
theorem settled_iff_not_breaks {r : Except ManifestFault α} : Settled r ↔ ¬Breaks r := by
  unfold Settled Breaks
  rcases r with fault | a
  · cases fault <;> simp
  · simp

@[simp] theorem not_breaks_ok (a : α) : ¬Breaks (.ok a : Except ManifestFault α) := by
  simp [Breaks]

@[simp] theorem not_breaks_rejected (defect : ManifestDefect) :
    ¬Breaks (.error (.rejected defect) : Except ManifestFault α) := by
  simp [Breaks]

@[simp] theorem breaks_broken (cause : Breakdown) :
    Breaks (.error (.broken cause) : Except ManifestFault α) :=
  ⟨cause, rfl⟩

/-- A part that comes to nothing but rejections does not break down. -/
theorem not_breaks_mapError {x : Except ε α} {wrap : ε → ManifestFault}
    (hwrap : ∀ e, ∃ defect, wrap e = .rejected defect) : ¬Breaks (x.mapError wrap) := by
  cases x with
  | ok a => exact not_breaks_ok a
  | error e =>
    obtain ⟨defect, hdefect⟩ := hwrap e
    rw [Except.mapError_error, hdefect]
    exact not_breaks_rejected defect

/-- A sequence breaks down in its first part, or in the second after the first succeeded. -/
theorem breaks_bind_iff {x : Except ManifestFault α} {f : α → Except ManifestFault β} :
    Breaks (x >>= f) ↔ Breaks x ∨ ∃ a, x = .ok a ∧ Breaks (f a) := by
  cases x with
  | ok a => simp
  | error fault => simp [Breaks]

/-- Where the second part does not break down, the first one decides. -/
theorem breaks_bind_iff_left {x : Except ManifestFault α} {f : α → Except ManifestFault β}
    (hf : ∀ a, ¬Breaks (f a)) : Breaks (x >>= f) ↔ Breaks x := by
  rw [breaks_bind_iff]
  exact or_iff_left fun ⟨a, _, ha⟩ => hf a ha

/-- What is done to a value afterwards breaks nothing down. -/
theorem breaks_map_iff {x : Except ManifestFault α} {f : α → β} :
    Breaks (x.map f) ↔ Breaks x := by
  cases x <;> simp [Breaks]

/-- A part that rejects nothing: it breaks down or succeeds. -/
def Lenient (r : Except ManifestFault α) : Prop :=
  Breaks r ∨ ∃ a, r = .ok a

/-- After a part that rejects nothing, the second part is what counts unless the first breaks
down. -/
theorem Lenient.breaks_bind_iff {x : Except ManifestFault α} {f : α → Except ManifestFault β}
    {p : Prop} (hx : Lenient x) (hf : ∀ a, Breaks (f a) ↔ p) :
    Breaks (x >>= f) ↔ Breaks x ∨ p := by
  simp only [Manifest.breaks_bind_iff, hf]
  constructor
  · rintro (hbreaks | ⟨_, -, hp⟩)
    · exact .inl hbreaks
    · exact .inr hp
  · rintro (hbreaks | hp)
    · exact .inl hbreaks
    · exact hx.imp_right fun ⟨a, ha⟩ => ⟨a, ha, hp⟩

/-- Steps that reject nothing reject nothing together. -/
theorem Lenient.bind {x : Except ManifestFault α} {f : α → Except ManifestFault β}
    (hx : Lenient x) (hf : ∀ a, Lenient (f a)) : Lenient (x >>= f) := by
  rcases hx with hbreaks | ⟨a, rfl⟩
  · exact .inl (Manifest.breaks_bind_iff.mpr (.inl hbreaks))
  · exact hf a

/-- A list of parts breaks down in one of them, after the ones before succeeded. -/
theorem breaks_mapM_iff {f : α → Except ManifestFault β} {l : List α} :
    Breaks (l.mapM f) ↔
      ∃ before a after, l = before ++ a :: after ∧ (∃ bs, before.mapM f = .ok bs) ∧
        Breaks (f a) := by
  simp only [Breaks, Except.mapM_eq_error_iff]
  constructor
  · rintro ⟨cause, before, a, after, hl, hbefore, ha⟩
    exact ⟨before, a, after, hl, hbefore, cause, ha⟩
  · rintro ⟨before, a, after, hl, hbefore, cause, ha⟩
    exact ⟨cause, before, a, after, hl, hbefore, ha⟩

/-! ## Texts -/

variable [Platform]

theorem textOrBreak_eq_ok_iff {v : Value} {t : Text} :
    v.textOrBreak = .ok t ↔ v.written? = some t := by
  rw [Value.textOrBreak, Except.mapError_eq_ok_iff, Value.written?_eq_some_iff]

/-- Where a text has to be written, the values that cannot be written break down. -/
theorem breaks_textOrBreak_iff {v : Value} : Breaks v.textOrBreak ↔ v.Unwritable := by
  unfold Value.textOrBreak Value.Unwritable
  cases v.written <;> simp

/-- A value is written or breaks down, and is not rejected. -/
theorem lenient_textOrBreak (v : Value) : Lenient v.textOrBreak := by
  unfold Value.textOrBreak Lenient
  cases v.written <;> simp

/-- What cannot be written is no text. -/
theorem text?_of_unwritable {v : Value} (h : v.Unwritable) : v.text? = none := by
  obtain ⟨cause, h⟩ := h
  cases htext : v.text? with
  | none => rfl
  | some t =>
    rw [Value.written_of_text? htext] at h
    cases h

/-- The namespace breaks down only if one is given. -/
theorem breaks_namespaceOr_iff {default : Text} {metadata : Value} :
    Breaks (namespaceOr default metadata) ↔
      ∃ ns, metadata.given? "namespace" = some ns ∧ ns.Unwritable := by
  unfold namespaceOr
  cases metadata.given? "namespace" with
  | none => simp
  | some ns => simp [breaks_textOrBreak_iff]

theorem lenient_namespaceOr (default : Text) (metadata : Value) :
    Lenient (namespaceOr default metadata) := by
  unfold namespaceOr
  cases metadata.given? "namespace" with
  | none => exact .inr ⟨default, rfl⟩
  | some ns => exact lenient_textOrBreak ns

end Manifest

end JenkinsAdmission
