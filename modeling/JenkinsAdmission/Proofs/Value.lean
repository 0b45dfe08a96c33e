import JenkinsAdmission.Manifest.Jenkins
import JenkinsAdmission.Proofs.Outcome

/-!
# Values that are known in part

A value is looked at through its view. Each question about it, such as whether it is null, what its
text is or what is under a key, says something about the view, and so about the answers to the other
questions.
-/

namespace JenkinsAdmission

/-! ## Atoms -/

namespace Atom

variable {a : Atom} {cause : Breakdown}

/-- Of all atoms only an integer may have no literal. -/
theorem cause_of_literal (h : a.literal = .error cause) : cause = .numeralTooLong := by
  cases a with
  | int i =>
    rw [literal] at h
    split at h
    · cases h
    · exact (Except.error.inj h).symm
  | _ => cases h

/-- An atom cannot be written for one reason only: it is an integer that is too long. -/
theorem cause_of_written (h : a.written = .error cause) : cause = .numeralTooLong := by
  unfold written at h
  split at h
  · cases h
  · cases h
  · cases h
  · exact cause_of_literal h

end Atom

namespace Value

variable {v w : Value}

/-! ## Kinds of values -/

theorem view_of_isNull (h : v.isNull = true) : v.view = .atom .null := by
  unfold isNull at h
  split at h
  · assumption
  · cases h

theorem view_of_text? {t : Text} (h : v.text? = some t) : v.view = .atom (.text t) := by
  unfold text? at h
  split at h
  · rename_i t' hview
    rw [hview, Option.some.inj h]
  · cases h

theorem atom?_eq_text_iff {t : Text} : v.atom? = some (.text t) ↔ v.text? = some t := by
  unfold atom? text?
  cases v.view with
  | atom a => cases a <;> simp
  | _ => simp

theorem view_of_entries? {entries : List (Atom × Value)} (h : v.entries? = some entries) :
    v.view = .mapping entries := by
  unfold entries? at h
  split at h
  · rename_i entries' hview
    rw [hview, Option.some.inj h]
  · cases h

theorem isFalsy_of_isNull (h : v.isNull = true) : v.isFalsy = true := by
  rw [isFalsy, view_of_isNull h]
  rfl

/-- A mapping is falsy when it is empty. -/
theorem isFalsy_of_entries? {entries : List (Atom × Value)} (h : v.entries? = some entries) :
    v.isFalsy = entries.isEmpty := by
  rw [isFalsy, view_of_entries? h]

/-- A text is falsy when it is empty. -/
theorem isFalsy_of_text? {t : Text} (h : v.text? = some t) : v.isFalsy = t.isEmpty := by
  rw [isFalsy, view_of_text? h]
  rfl

/-! ## Texts -/

/-- A numeral that is too long, or values too deep inside one another. -/
def IsWritingCause (cause : Breakdown) : Prop :=
  cause = .numeralTooLong ∨ cause = .tooDeep

theorem isWritingCause_atom {a : Atom} {depth : Nat} {cause : Breakdown}
    (h : a.literalWithin depth = .error cause) : IsWritingCause cause := by
  rw [Atom.literalWithin] at h
  split at h
  · exact .inr (Except.error.inj h).symm
  · exact .inl (Atom.cause_of_literal h)

/-- A list breaks down as one of its items does. -/
theorem isWritingCause_mapM {α : Type} {l : List α} {f : α → Except Breakdown Text}
    {close : List Text → Text} {cause : Breakdown} (h : (l.mapM f).map close = .error cause)
    (hall : ∀ a ∈ l, f a = .error cause → IsWritingCause cause) : IsWritingCause cause := by
  rw [Except.map_eq_error_iff, Except.mapM_eq_error_iff] at h
  obtain ⟨before, a, after, rfl, -, ha⟩ := h
  exact hall a (by simp) ha

/-- There are two reasons why a literal cannot be written. -/
theorem isWritingCause_literalWithin {depth : Nat} {above : List Place} {v : Value}
    {cause : Breakdown} (h : v.literalWithin depth above = .error cause) :
    IsWritingCause cause := by
  induction depth using Nat.strongRecOn generalizing above v with
  | ind depth ih =>
    match depth with
    | 0 => exact .inr (Except.error.inj h).symm
    | depth + 1 =>
      have hbelow : ∀ {above : List Place} {v : Value},
          v.literalWithin depth above = .error cause → IsWritingCause cause :=
        ih depth (Nat.lt_succ_self _)
      rw [literalWithin] at h
      split at h
      · exact .inl (Atom.cause_of_literal h)
      · split at h
        · cases h
        · exact isWritingCause_mapM h fun _ _ => hbelow
      · split at h
        · cases h
        · refine isWritingCause_mapM h fun e _ he => ?_
          rcases Except.bind_eq_error_iff.mp he with hkey | ⟨_, -, he⟩
          · exact isWritingCause_atom hkey
          · exact hbelow ((Except.bind_eq_error_iff.mp he).resolve_right fun ⟨_, _, h⟩ => nomatch h)
      · split at h
        · cases h
        · split at h
          · split at h
            · cases h
            · exact .inr (Except.error.inj h).symm
          · -- a pair takes a level of its own
            next depth =>
            have hpair : ∀ {above : List Place} {v : Value},
                v.literalWithin depth above = .error cause → IsWritingCause cause :=
              ih depth (by omega)
            refine isWritingCause_mapM h fun p _ hp => ?_
            rcases Except.bind_eq_error_iff.mp hp with hfirst | ⟨_, -, hp⟩
            · exact hpair hfirst
            · exact hpair
                ((Except.bind_eq_error_iff.mp hp).resolve_right fun ⟨_, _, h⟩ => nomatch h)
      · rw [setLiteralWithin] at h
        split at h
        · cases h
        · split at h
          · exact .inr (Except.error.inj h).symm
          · exact isWritingCause_mapM h fun _ _ => isWritingCause_atom

section

variable [Platform] {t : Text}

theorem written?_eq_some_iff : v.written? = some t ↔ v.written = .ok t := by
  rw [written?]
  cases v.written <;> simp [Except.toOption]

/-- A value has no written form when writing it breaks down. -/
theorem written?_eq_none_iff : v.written? = none ↔ ∃ cause, v.written = .error cause := by
  rw [written?]
  cases v.written <;> simp [Except.toOption]

/-- What cannot be written holds an integer that is too long, or is too deep. -/
theorem isWritingCause_written {cause : Breakdown} (h : v.written = .error cause) :
    IsWritingCause cause := by
  rw [written] at h
  split at h
  · exact .inl (Atom.cause_of_written h)
  · exact isWritingCause_literalWithin h

/-- A text is written as it is. -/
theorem written_of_text? (h : v.text? = some t) : v.written = .ok t := by
  rw [written, view_of_text? h]
  rfl

end

/-! ## Fields -/

/-- A field that is falsy counts as left out. -/
theorem given?_of_isFalsy {key : Text} (h : v.get? key = some w) (hfalsy : w.isFalsy = true) :
    v.given? key = none := by
  rw [given?, h, Option.filter_some, if_neg (by simp [hfalsy])]

theorem given?_of_not_isFalsy {key : Text} (h : v.get? key = some w)
    (hfalsy : w.isFalsy = false) : v.given? key = some w := by
  rw [given?, h, Option.filter_some, if_pos (by simp [hfalsy])]

theorem given?_of_get?_eq_none {key : Text} (h : v.get? key = none) : v.given? key = none := by
  rw [given?, h, Option.filter_none]

theorem given?_eq_some_iff {key : Text} :
    v.given? key = some w ↔ v.get? key = some w ∧ w.isFalsy = false := by
  rw [given?, Option.filter_eq_some_iff, Bool.not_eq_true']

/-- Only a mapping that is not empty has something under a key. -/
theorem isMapping_of_get? {key : Text} (h : v.get? key = some w) :
    v.isMapping = true ∧ v.isFalsy = false := by
  unfold get? at h
  cases hentries : v.entries? with
  | none => simp [hentries] at h
  | some entries =>
    refine ⟨by rw [isMapping, hentries]; rfl, ?_⟩
    rw [isFalsy_of_entries? hentries]
    cases entries with
    | nil => simp [hentries, Entries.get?] at h
    | cons e rest => rfl

end Value

end JenkinsAdmission
