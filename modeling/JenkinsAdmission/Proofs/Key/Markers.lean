import JenkinsAdmission.Proofs.Key.Selection

/-!
# Markers and what is passed over

A marker stands on one line: neither of its own bytes nor of those of a label ends a line. So a
search for a marker, or for a block, passes over whatever no marker begins in.

* `Pem.before?_append` and `Pem.firstBlock?_append` pass over bytes at which no marker begins.
* `Pem.prefix_of_prefix_append` says that a marker ends before a byte that it does not hold. Hence
  none begins on a line and goes on after its end.
-/

namespace JenkinsAdmission.Pem

variable {marker data rest skipped line : Bytes} {b : UInt8}

/-! ## Markers stand on one line -/

/-- Two pieces of a line make a piece of a line. -/
theorem unbroken_append {line' : Bytes} (h : Unbroken line) (h' : Unbroken line') :
    Unbroken (line ++ line') :=
  ⟨fun hmem => (List.mem_append.mp hmem).elim h.1 h'.1,
    fun hmem => (List.mem_append.mp hmem).elim h.2 h'.2⟩

theorem unbroken_of_subset {line' : Bytes} (h : Unbroken line) (hsubset : line' ⊆ line) :
    Unbroken line' :=
  ⟨fun hmem => h.1 (hsubset hmem), fun hmem => h.2 (hsubset hmem)⟩

theorem unbroken_beginMark : Unbroken beginMark := by
  unfold Unbroken
  decide

theorem unbroken_dashes : Unbroken dashes := by
  unfold Unbroken
  decide

theorem unbroken_labelAlphabet : Unbroken labelAlphabet := by
  unfold Unbroken
  decide

/-- The marker that ends a block stands on one line. -/
theorem unbroken_endMark {label : Bytes} (h : ∀ b ∈ label, b ∈ labelAlphabet) :
    Unbroken (endMark label) := by
  have hend : Unbroken (Bytes.ofString "-----END ") := by
    unfold Unbroken
    decide
  have hlabel : Unbroken label := unbroken_of_subset unbroken_labelAlphabet fun b hb => h b hb
  exact unbroken_append (unbroken_append hend hlabel) unbroken_dashes

theorem beginMark_ne_nil : beginMark ≠ [] := by
  decide

theorem endMark_ne_nil (label : Bytes) : endMark label ≠ [] := by
  have hdashes : dashes ≠ [] := by
    decide
  exact List.append_ne_nil_of_right_ne_nil _ hdashes

/-! ## Where no marker begins -/

/-- What begins with bytes and goes on, or ends in them. -/
theorem prefix_or_of_prefix_append (h : marker <+: line ++ rest) :
    marker <+: line ∨ ∃ tail, marker = line ++ tail ∧ tail <+: rest := by
  rcases List.prefix_or_prefix_of_prefix h (List.prefix_append line rest) with hline | hmarker
  · exact .inl hline
  · obtain ⟨tail, rfl⟩ := hmarker
    exact .inr ⟨tail, rfl, (List.prefix_append_right_inj line).mp h⟩

/-- A marker that begins somewhere ends before a byte that it does not hold. -/
theorem prefix_of_prefix_append (h : marker <+: line ++ b :: rest) (hb : b ∉ marker) :
    marker <+: line := by
  rcases prefix_or_of_prefix_append h with hline | ⟨tail, rfl, htail⟩
  · exact hline
  · cases tail with
    | nil => exact ⟨[], by simp⟩
    | cons a tail =>
      obtain ⟨rfl, -⟩ := List.cons_prefix_cons.mp htail
      exact absurd (List.mem_append_right line (List.mem_cons_self ..)) hb

/-- No marker begins with a byte that it does not have. -/
theorem not_prefix_cons (hne : marker ≠ []) (hb : b ∉ marker) : ¬marker <+: b :: rest := by
  intro h
  have hnil : marker <+: [] := prefix_of_prefix_append h hb
  exact hne (List.prefix_nil.mp hnil)

/-! ## What is passed over -/

/-- A byte where the marker does not begin is passed over. -/
theorem before?_cons (h : ¬marker <+: b :: rest) :
    before? marker (b :: rest) = (before? marker rest).map (b :: ·) := by
  rw [before?, if_neg (by rwa [List.isPrefixOf_iff_prefix])]

/-- Bytes at which no marker begins come before the marker. -/
theorem before?_append
    (h : ∀ tail, tail ≠ [] → tail <:+ skipped → ¬marker <+: tail ++ rest) :
    before? marker (skipped ++ rest) = (before? marker rest).map (skipped ++ ·) := by
  induction skipped with
  | nil => simp
  | cons b skipped ih =>
    have hhead : ¬marker <+: b :: (skipped ++ rest) :=
      h (b :: skipped) (List.cons_ne_nil b skipped) List.suffix_rfl
    rw [List.cons_append, before?_cons hhead,
      ih fun tail hne htail => h tail hne (htail.trans (List.suffix_cons b skipped)),
      Option.map_map]
    rfl

/-- There is no block where there is no marker. -/
theorem blockAt?_of_not_prefix (h : ¬beginMark <+: data) : blockAt? data = none := by
  rw [blockAt?_eq_none_iff]
  rintro block ⟨-, -, lineEnd, -, after, hreads⟩
  refine h ⟨block.label ++ dashes ++ lineEnd ++ block.body ++ endMark block.label ++ after, ?_⟩
  simpa only [List.drop_zero, List.append_assoc] using hreads.symm

/-- No block is where no BEGIN marker is. -/
theorem firstBlock?_append
    (h : ∀ tail, tail ≠ [] → tail <:+ skipped → ¬beginMark <+: tail ++ rest) :
    firstBlock? (skipped ++ rest) = firstBlock? rest := by
  induction skipped with
  | nil => rfl
  | cons b skipped ih =>
    have hhead : ¬beginMark <+: b :: (skipped ++ rest) :=
      h (b :: skipped) (List.cons_ne_nil b skipped) List.suffix_rfl
    rw [List.cons_append, firstBlock?, blockAt?_of_not_prefix hhead]
    exact ih fun tail hne htail => h tail hne (htail.trans (List.suffix_cons b skipped))

end JenkinsAdmission.Pem
