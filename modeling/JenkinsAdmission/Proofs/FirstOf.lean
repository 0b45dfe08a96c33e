/-!
# The first of a list

Much of this library goes through a list and stops at the first element of some kind. `FirstOf` says
which element that is, by the split of the list at it, and the lemmas follow a list as it is put
together.
-/

namespace JenkinsAdmission

variable {α : Type} {P : α → Prop} {l m : List α} {a b : α}

/-- The first element of a list that has a property. -/
def FirstOf (P : α → Prop) (l : List α) (a : α) : Prop :=
  ∃ before after, l = before ++ a :: after ∧ P a ∧ ∀ b ∈ before, ¬P b

theorem not_firstOf_nil : ¬FirstOf P [] a := by
  rintro ⟨before, after, h, -⟩
  simp at h

theorem FirstOf.mem (h : FirstOf P l a) : a ∈ l := by
  obtain ⟨before, after, rfl, -, -⟩ := h
  simp

theorem FirstOf.holds (h : FirstOf P l a) : P a := by
  obtain ⟨before, after, -, ha, -⟩ := h
  exact ha

/-- The first element is the head of the list, or the head does not count. -/
theorem firstOf_cons_iff : FirstOf P (b :: l) a ↔ a = b ∧ P b ∨ ¬P b ∧ FirstOf P l a := by
  constructor
  · rintro ⟨before, after, hl, ha, hbefore⟩
    cases before with
    | nil =>
      obtain ⟨rfl, -⟩ := List.cons.inj hl
      exact .inl ⟨rfl, ha⟩
    | cons c before =>
      obtain ⟨rfl, rfl⟩ := List.cons.inj hl
      obtain ⟨hb, hbefore⟩ := List.forall_mem_cons.mp hbefore
      exact .inr ⟨hb, before, after, rfl, ha, hbefore⟩
  · rintro (⟨rfl, ha⟩ | ⟨hb, before, after, rfl, ha, hbefore⟩)
    · exact ⟨[], l, rfl, ha, nofun⟩
    · exact ⟨b :: before, after, rfl, ha, List.forall_mem_cons.mpr ⟨hb, hbefore⟩⟩

/-- The first element of two lists in a row is in the first list, or there is none in there. -/
theorem firstOf_append_iff :
    FirstOf P (l ++ m) a ↔ FirstOf P l a ∨ (∀ b ∈ l, ¬P b) ∧ FirstOf P m a := by
  induction l with
  | nil => simp [not_firstOf_nil]
  | cons b l ih =>
    rw [List.cons_append, firstOf_cons_iff, firstOf_cons_iff, ih, List.forall_mem_cons, and_or_left,
      or_assoc, and_assoc]

/-- A list is split at its first element in one way only. -/
theorem split_unique {before before' after after' : List α}
    (h : before ++ a :: after = before' ++ b :: after') (ha : P a) (hb : P b)
    (hbefore : ∀ c ∈ before, ¬P c) (hbefore' : ∀ c ∈ before', ¬P c) :
    before = before' ∧ a = b ∧ after = after' := by
  induction before generalizing before' with
  | nil =>
    cases before' with
    | nil =>
      obtain ⟨rfl, rfl⟩ := List.cons.inj h
      exact ⟨rfl, rfl, rfl⟩
    -- the first split would have its element before that of the second
    | cons c before' =>
      obtain ⟨rfl, -⟩ := List.cons.inj h
      exact absurd ha (hbefore' a (List.mem_cons_self ..))
  | cons c before ih =>
    obtain ⟨hc, hbefore⟩ := List.forall_mem_cons.mp hbefore
    cases before' with
    -- the other way round
    | nil =>
      obtain ⟨rfl, -⟩ := List.cons.inj h
      exact absurd hb hc
    | cons d before' =>
      obtain ⟨rfl, htail⟩ := List.cons.inj h
      obtain ⟨rfl, rfl, rfl⟩ := ih htail hbefore (List.forall_mem_cons.mp hbefore').2
      exact ⟨rfl, rfl, rfl⟩

/-- There is only one first element. -/
theorem FirstOf.unique (ha : FirstOf P l a) (hb : FirstOf P l b) : a = b := by
  obtain ⟨before, after, rfl, ha, hbefore⟩ := ha
  obtain ⟨before', after', h, hb, hbefore'⟩ := hb
  exact (split_unique h ha hb hbefore hbefore').2.1

end JenkinsAdmission
