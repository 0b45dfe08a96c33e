import JenkinsAdmission.Table
import Mathlib.Data.List.Induction
import Mathlib.Data.List.Nodup

/-!
# Tables as lists of writes

What is under a key of a table that was written to? The value of the last write under that key, and
what was there before if there was none. Where every key is written once, each write is found again,
and the order of the writes does not matter.

The entries of a table are writes too. `Table.overwrite` writes them over another table, and
`Table.ofWrites_append` says that writing in two goes comes to this.
-/

namespace JenkinsAdmission

namespace Table

variable {κ α : Type} [DecidableEq κ]

/-- The last write of a key counts. -/
theorem get?_foldl_insert (writes : List (κ × α)) (t : Table κ α) (k : κ) :
    Table.get? (writes.foldl (fun t e => t.insert e.1 e.2) t) k =
      ((writes.reverse.find? fun e => e.1 = k).map Prod.snd).or (t.get? k) := by
  induction writes generalizing t with
  | nil => rfl
  | cons e rest ih =>
    rw [List.foldl_cons, ih, List.reverse_cons, List.find?_append, get?_insert]
    cases rest.reverse.find? fun e => e.1 = k with
    | some f => rfl
    | none =>
      by_cases h : e.1 = k
      · simp [h]
      · simp [h]

variable {writes writes' : List (κ × α)} {t t' : Table κ α} {k : κ}

/-- A key that is written once has what was written. -/
theorem get?_foldl_insert_of_mem (hkeys : (writes.map Prod.fst).Nodup) {a : α}
    (h : (k, a) ∈ writes) :
    Table.get? (writes.foldl (fun t e => t.insert e.1 e.2) t) k = some a := by
  rw [get?_foldl_insert]
  cases hfind : writes.reverse.find? fun e => e.1 = k with
  | none => simpa using List.find?_eq_none.mp hfind (k, a) (List.mem_reverse.mpr h)
  | some e =>
    have hmem : e ∈ writes := List.mem_reverse.mp (List.mem_of_find?_eq_some hfind)
    have hkey : e.1 = k := by simpa using List.find?_some hfind
    rw [List.inj_on_of_nodup_map hkeys hmem h hkey, Option.map_some, Option.some_or]

/-- A key that is not written keeps what it had. -/
theorem get?_foldl_insert_of_notMem (h : k ∉ writes.map Prod.fst) :
    Table.get? (writes.foldl (fun t e => t.insert e.1 e.2) t) k = t.get? k := by
  have hfind : (writes.reverse.find? fun e => e.1 = k) = none := by
    rw [List.find?_eq_none]
    intro e he hkey
    exact h (List.mem_map.mpr ⟨e, List.mem_reverse.mp he, by simpa using hkey⟩)
  rw [get?_foldl_insert, hfind, Option.map_none, Option.none_or]

/-- What was written under a key is there, or else what was written under it later. -/
theorem exists_get?_foldl_insert (h : k ∈ writes.map Prod.fst) :
    ∃ a, Table.get? (writes.foldl (fun t e => t.insert e.1 e.2) t) k = some a := by
  rw [get?_foldl_insert]
  cases hfind : writes.reverse.find? fun e => e.1 = k with
  | some e => exact ⟨e.2, rfl⟩
  | none =>
    obtain ⟨e, he, hkey⟩ := List.mem_map.mp h
    exact absurd hkey (by simpa using List.find?_eq_none.mp hfind e (List.mem_reverse.mpr he))

/-- Writes under distinct keys may come in any order. -/
theorem get?_foldl_insert_perm (hwrites : writes.Perm writes')
    (hkeys : (writes.map Prod.fst).Nodup) (ht : ∀ k, t.get? k = t'.get? k) (k : κ) :
    Table.get? (writes.foldl (fun t e => t.insert e.1 e.2) t) k =
      Table.get? (writes'.foldl (fun t e => t.insert e.1 e.2) t') k := by
  by_cases hk : k ∈ writes.map Prod.fst
  · obtain ⟨⟨k, a⟩, hmem, rfl⟩ := List.mem_map.mp hk
    rw [get?_foldl_insert_of_mem hkeys hmem, get?_foldl_insert_of_mem
      ((hwrites.map Prod.fst).nodup_iff.mp hkeys) (hwrites.mem_iff.mp hmem)]
  · rw [get?_foldl_insert_of_notMem hk, get?_foldl_insert_of_notMem
      ((hwrites.map Prod.fst).mem_iff.not.mp hk)]
    exact ht k

/-! ## Keys -/

/-- A new key comes last, and one that is there already keeps its place. -/
theorem keys_insert (t : Table κ α) (k : κ) (a : α) :
    (t.insert k a).map Prod.fst =
      if k ∈ t.map Prod.fst then t.map Prod.fst else t.map Prod.fst ++ [k] := by
  induction t with
  | nil => rfl
  | cons e rest ih =>
    obtain ⟨l, b⟩ := e
    by_cases h : l = k
    · simp [insert, h]
    · simp only [insert, h, if_false, List.map_cons, ih, List.mem_cons, Ne.symm h, false_or]
      split <;> rfl

theorem mem_keys_insert {l : κ} {a : α} :
    k ∈ (t.insert l a).map Prod.fst ↔ k = l ∨ k ∈ t.map Prod.fst := by
  rw [keys_insert]
  split
  · next h => exact ⟨.inr, fun hk => hk.elim (fun heq => heq ▸ h) id⟩
  · rw [List.mem_append, List.mem_singleton, or_comm]

/-- Inserting makes no key twice. -/
theorem nodup_keys_insert (h : (t.map Prod.fst).Nodup) (k : κ) (a : α) :
    ((t.insert k a).map Prod.fst).Nodup := by
  rw [keys_insert]
  split
  · exact h
  · next hk => exact List.nodup_append.mpr ⟨h, List.nodup_singleton k, by
      rintro l hl m hm rfl
      exact hk (List.mem_singleton.mp hm ▸ hl)⟩

/-- No key of a table that was written to is there twice. -/
theorem nodup_keys_foldl_insert (h : (t.map Prod.fst).Nodup) (writes : List (κ × α)) :
    ((writes.foldl (fun t e => t.insert e.1 e.2) t).map Prod.fst).Nodup := by
  induction writes generalizing t with
  | nil => exact h
  | cons e rest ih => exact ih (nodup_keys_insert h e.1 e.2)

theorem nodup_keys_ofWrites (writes : List (κ × α)) : ((ofWrites writes).map Prod.fst).Nodup :=
  nodup_keys_foldl_insert (t := []) List.nodup_nil writes

/-! ## A table over another -/

/-- A table with the entries of another one written over its own. -/
def overwrite (t u : Table κ α) : Table κ α :=
  u.foldl (fun t e => t.insert e.1 e.2) t

theorem get?_eq_none_of_notMem (h : k ∉ t.map Prod.fst) : t.get? k = none := by
  induction t with
  | nil => rfl
  | cons e rest ih =>
    simp only [List.map_cons, List.mem_cons, not_or] at h
    rw [get?, if_neg (Ne.symm h.1), ih h.2]

/-- In a table without a key twice, an entry is what is found under its key. -/
theorem get?_eq_some_of_mem (hkeys : (t.map Prod.fst).Nodup) {a : α} (h : (k, a) ∈ t) :
    t.get? k = some a := by
  induction t with
  | nil => cases h
  | cons e rest ih =>
    obtain ⟨hfirst, hrest⟩ := List.nodup_cons.mp hkeys
    rcases List.mem_cons.mp h with rfl | h
    · exact if_pos rfl
    · have hne : e.1 ≠ k := fun heq => hfirst (heq ▸ List.mem_map_of_mem h)
      rw [get?, if_neg hne, ih hrest h]

/-- Whatever is in a table that was written to was written or was there before. -/
theorem mem_insert {e : κ × α} {a : α} (h : e ∈ t.insert k a) : e = (k, a) ∨ e ∈ t := by
  induction t with
  | nil => exact .inl (List.mem_singleton.mp h)
  | cons f rest ih =>
    rw [insert] at h
    split at h
    · next heq =>
      subst heq
      exact (List.mem_cons.mp h).imp_right (List.mem_cons_of_mem _)
    · rcases List.mem_cons.mp h with rfl | h
      · exact .inr List.mem_cons_self
      · exact (ih h).imp_right (List.mem_cons_of_mem _)

/-- What is found stands in the table. -/
theorem mem_of_get? {a : α} (h : t.get? k = some a) : (k, a) ∈ t := by
  induction t with
  | nil => cases h
  | cons e rest ih =>
    rw [get?] at h
    split at h
    · next heq =>
      cases h
      subst heq
      exact List.mem_cons_self
    · exact List.mem_cons_of_mem _ (ih h)

/-- Writing and then changing every value is changing every value and then writing. -/
theorem map_insert {β : Type} (f : α → β) (t : Table κ α) (k : κ) (a : α) :
    (t.insert k a).map (fun e => (e.1, f e.2)) =
      insert (t.map fun e => (e.1, f e.2)) k (f a) := by
  induction t with
  | nil => rfl
  | cons e rest ih =>
    rw [insert, List.map_cons, insert]
    split
    · rfl
    · rw [List.map_cons, ih]

theorem get?_map {β : Type} (f : α → β) (t : Table κ α) (k : κ) :
    Table.get? (t.map fun e => (e.1, f e.2)) k = (t.get? k).map f := by
  induction t with
  | nil => rfl
  | cons e rest ih =>
    rw [List.map_cons, get?, get?, ih]
    split <;> rfl

/-- What was written over counts. -/
theorem get?_overwrite {u : Table κ α} (hu : (u.map Prod.fst).Nodup) (t : Table κ α) (k : κ) :
    (t.overwrite u).get? k = (u.get? k).or (t.get? k) := by
  induction u generalizing t with
  | nil => rfl
  | cons e rest ih =>
    obtain ⟨l, a⟩ := e
    obtain ⟨hl, hrest⟩ := List.nodup_cons.mp hu
    have hover : overwrite t ((l, a) :: rest) = overwrite (t.insert l a) rest := rfl
    rw [hover, ih hrest, get?_insert, get?]
    by_cases h : l = k
    · subst h
      simp [get?_eq_none_of_notMem hl]
    · simp [h]

/-- Of two values for a key the second counts. -/
theorem insert_insert (t : Table κ α) (k : κ) (a b : α) :
    (t.insert k a).insert k b = t.insert k b := by
  induction t with
  | nil => simp [insert]
  | cons e rest ih =>
    obtain ⟨l, c⟩ := e
    by_cases h : l = k
    · simp [insert, h]
    · simp [insert, h, ih]

/-- A write to a key that is there can be made earlier. -/
theorem insert_insert_comm {l : κ} (hkl : k ≠ l) (hk : k ∈ t.map Prod.fst) (a b : α) :
    (t.insert l b).insert k a = (t.insert k a).insert l b := by
  induction t with
  | nil => cases hk
  | cons e rest ih =>
    obtain ⟨m, c⟩ := e
    by_cases hmk : m = k
    · subst hmk
      simp [insert, hkl]
    · have hrest : k ∈ rest.map Prod.fst := by
        simpa [Ne.symm hmk] using hk
      by_cases hml : m = l
      · simp [insert, hml, Ne.symm hkl]
      · simp [insert, hmk, hml, ih hrest]

/-- A write to a key that the upper table does not have is one to the lower table. -/
theorem insert_overwrite {u : Table κ α} (hk : k ∈ t.map Prod.fst) (hu : k ∉ u.map Prod.fst)
    (a : α) : (t.overwrite u).insert k a = (t.insert k a).overwrite u := by
  induction u generalizing t with
  | nil => rfl
  | cons e rest ih =>
    simp only [List.map_cons, List.mem_cons, not_or] at hu
    have hstep : (overwrite (t.insert e.1 e.2) rest).insert k a =
        overwrite ((t.insert e.1 e.2).insert k a) rest :=
      ih (mem_keys_insert.mpr (.inr hk)) hu.2
    rw [insert_insert_comm hu.1 hk] at hstep
    exact hstep

/-- Writing to a table and then all of it over another one is writing to the other one last. -/
theorem overwrite_insert {u : Table κ α} (hu : (u.map Prod.fst).Nodup) (t : Table κ α) (k : κ)
    (a : α) : t.overwrite (u.insert k a) = (t.overwrite u).insert k a := by
  induction u generalizing t with
  | nil => rfl
  | cons e rest ih =>
    obtain ⟨l, b⟩ := e
    obtain ⟨hl, hrest⟩ := List.nodup_cons.mp hu
    by_cases h : l = k
    · subst h
      have hover : overwrite (t.insert l a) rest = overwrite ((t.insert l b).insert l a) rest := by
        rw [insert_insert]
      rw [← insert_overwrite (mem_keys_insert.mpr (.inl rfl)) hl] at hover
      simpa [insert, overwrite] using hover
    · have hover : (overwrite (t.insert l b) (insert rest k a)) =
          (overwrite (t.insert l b) rest).insert k a := ih hrest _
      simpa [insert, h, overwrite] using hover

/-- Writing in two goes is writing the second table over the first. -/
theorem ofWrites_append (writes writes' : List (κ × α)) :
    ofWrites (writes ++ writes') = (ofWrites writes).overwrite (ofWrites writes') := by
  have hfold : ∀ t : Table κ α, t.overwrite (ofWrites writes') =
      writes'.foldl (fun t e => t.insert e.1 e.2) t := by
    intro t
    -- from the right, since the second table is written write by write
    induction writes' using List.reverseRecOn with
    | nil => rfl
    | append_singleton rest e ih =>
      have hlast : ofWrites (rest ++ [e]) = (ofWrites rest).insert e.1 e.2 := by
        rw [ofWrites, List.foldl_append]
        rfl
      rw [hlast, overwrite_insert (nodup_keys_ofWrites rest), ih, List.foldl_append]
      rfl
  rw [hfold, ofWrites, List.foldl_append]
  rfl

end Table

end JenkinsAdmission
