import JenkinsAdmission.Proofs.Outcome
import JenkinsAdmission.Secret.Store

/-!
# Data collected entry by entry

The data of a secret are collected from its entries: each entry is decoded, and what comes of it is
written into a table. An entry that cannot be decoded ends this, so the first one decides.

* `SecretData.collect_eq` separates decoding from writing.
* `SecretData.exists_collect_iff` and `SecretData.collect_eq_error_iff` say when the data are
  collected and with which fault they are not.
-/

namespace JenkinsAdmission.SecretData

variable {ε α β : Type} {key : α → Except ε Text} {decode : β → Except ε Bytes}

/-- What one entry writes. -/
def write (key : α → Except ε Text) (decode : β → Except ε Bytes) (e : α × β) :
    Except ε (Text × Bytes) := do
  let bytes ← decode e.2
  let k ← key e.1
  pure (k, bytes)

/-- The first entry is written before the others, its value before its key. -/
theorem collect_cons (e : α × β) (entries : List (α × β)) (data : SecretData) :
    collect key decode (e :: entries) data =
      decode e.2 >>= fun bytes => key e.1 >>= fun k =>
        collect key decode entries (data.insert k bytes) := by
  rw [collect, List.foldlM_cons]
  cases decode e.2 with
  | error fault => rfl
  | ok bytes => cases key e.1 <;> rfl

/-- The entries are decoded, and then what they write is written. -/
theorem collect_eq (entries : List (α × β)) (data : SecretData) :
    collect key decode entries data =
      (entries.mapM (write key decode)).map (·.foldl (fun t w => t.insert w.1 w.2) data) := by
  refine Except.foldlM_eq_map_mapM (fun table e => ?_) entries data
  rw [write]
  cases decode e.2 with
  | error fault => rfl
  | ok bytes => cases key e.1 <;> rfl

/-- Entries are collected if each of them can be written. -/
theorem exists_collect_iff {entries : List (α × β)} {data : SecretData} :
    (∃ collected, collect key decode entries data = .ok collected) ↔
      ∀ e ∈ entries, ∃ w, write key decode e = .ok w := by
  rw [← Except.exists_mapM_eq_ok_iff]
  simp only [collect_eq, Except.map_eq_ok_iff]
  constructor
  · rintro ⟨_, writes, h, -⟩
    exact ⟨writes, h⟩
  · rintro ⟨writes, h⟩
    exact ⟨_, writes, h, rfl⟩

/-- The fault is that of an entry, after entries that can be decoded. -/
theorem collect_eq_error_iff {entries : List (α × β)} {data : SecretData} {fault : ε} :
    collect key decode entries data = .error fault ↔
      ∃ before e after, entries = before ++ e :: after ∧
        (∀ b ∈ before, ∃ w, write key decode b = .ok w) ∧ write key decode e = .error fault := by
  simp only [collect_eq, Except.map_eq_error_iff, Except.mapM_eq_error_iff,
    Except.exists_mapM_eq_ok_iff]

/-! ## Keys that are texts -/

variable {e : Text × β}

theorem exists_write_iff : (∃ w, write .ok decode e = .ok w) ↔ ∃ bytes, decode e.2 = .ok bytes := by
  rw [write]
  cases decode e.2 <;> simp [Except.pure_eq]

theorem write_eq_error_iff {fault : ε} :
    write .ok decode e = .error fault ↔ decode e.2 = .error fault := by
  rw [write]
  cases decode e.2 <;> simp [Except.pure_eq]

end JenkinsAdmission.SecretData
