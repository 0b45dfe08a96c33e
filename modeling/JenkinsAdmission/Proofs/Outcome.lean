/-!
# Outcomes taken apart

An outcome is a value or a fault. When is an outcome that was put together from others a value, and
which one? Each lemma answers this for one way of putting outcomes together.
-/

namespace JenkinsAdmission

namespace Except

variable {ε ζ α β : Type}

@[simp] theorem ok_bind (a : α) (f : α → Except ε β) : (Except.ok a >>= f) = f a := rfl

@[simp] theorem error_bind (e : ε) (f : α → Except ε β) :
    (Except.error e >>= f) = .error e := rfl

@[simp] theorem map_ok (f : α → β) (a : α) : (Except.ok a : Except ε α).map f = .ok (f a) := rfl

@[simp] theorem map_error (f : α → β) (e : ε) :
    (Except.error e : Except ε α).map f = .error e := rfl

@[simp] theorem mapError_ok (f : ε → ζ) (a : α) :
    (Except.ok a : Except ε α).mapError f = .ok a := rfl

@[simp] theorem mapError_error (f : ε → ζ) (e : ε) :
    (Except.error e : Except ε α).mapError f = .error (f e) := rfl

theorem pure_eq (a : α) : (pure a : Except ε α) = .ok a := rfl

theorem throw_eq (e : ε) : (throw e : Except ε α) = .error e := rfl

/-- Two steps succeed if the first one does, and then the second on its value. -/
theorem bind_eq_ok_iff {x : Except ε α} {f : α → Except ε β} {b : β} :
    x >>= f = .ok b ↔ ∃ a, x = .ok a ∧ f a = .ok b := by
  cases x <;> simp

/-- Two steps fail if the first one does, or else the second on its value. -/
theorem bind_eq_error_iff {x : Except ε α} {f : α → Except ε β} {e : ε} :
    x >>= f = .error e ↔ x = .error e ∨ ∃ a, x = .ok a ∧ f a = .error e := by
  cases x <;> simp

theorem map_eq_ok_iff {x : Except ε α} {f : α → β} {b : β} :
    x.map f = .ok b ↔ ∃ a, x = .ok a ∧ f a = b := by
  cases x <;> simp

theorem map_eq_error_iff {x : Except ε α} {f : α → β} {e : ε} :
    x.map f = .error e ↔ x = .error e := by
  cases x <;> simp

theorem mapError_eq_ok_iff {x : Except ε α} {f : ε → ζ} {a : α} :
    x.mapError f = .ok a ↔ x = .ok a := by
  cases x <;> simp

/-- A fault is carried over when it is seen as another one. -/
theorem mapError_eq_error_iff {x : Except ε α} {f : ε → ζ} {e : ζ} :
    x.mapError f = .error e ↔ ∃ d, x = .error d ∧ f d = e := by
  cases x <;> simp

/-! ## Lists of outcomes -/

/-- A list of outcomes succeeds at its head and in its rest. -/
theorem mapM_cons_eq_ok_iff {f : α → Except ε β} {a : α} {l : List α} {cs : List β} :
    (a :: l).mapM f = .ok cs ↔ ∃ b bs, f a = .ok b ∧ l.mapM f = .ok bs ∧ cs = b :: bs := by
  simp only [List.mapM_cons, bind_eq_ok_iff, pure_eq, Except.ok.injEq, exists_and_left,
    eq_comm (a := cs)]

/-- Where every item has a known value, so has the list. -/
theorem mapM_of_forall_eq_ok {f : α → Except ε β} {g : α → β} {l : List α}
    (h : ∀ a ∈ l, f a = .ok (g a)) : l.mapM f = .ok (l.map g) := by
  induction l with
  | nil => rfl
  | cons a l ih =>
    obtain ⟨ha, hl⟩ := List.forall_mem_cons.mp h
    exact mapM_cons_eq_ok_iff.mpr ⟨g a, l.map g, ha, ih hl, rfl⟩

/-- A list succeeds if and only if each of its items does. -/
theorem exists_mapM_eq_ok_iff {f : α → Except ε β} {l : List α} :
    (∃ bs, l.mapM f = .ok bs) ↔ ∀ a ∈ l, ∃ b, f a = .ok b := by
  induction l with
  | nil => simp [pure_eq]
  | cons a l ih =>
    rw [List.forall_mem_cons, ← ih]
    constructor
    · rintro ⟨_, h⟩
      obtain ⟨b, bs, hb, hbs, -⟩ := mapM_cons_eq_ok_iff.mp h
      exact ⟨⟨b, hb⟩, bs, hbs⟩
    · rintro ⟨⟨b, hb⟩, bs, hbs⟩
      exact ⟨b :: bs, mapM_cons_eq_ok_iff.mpr ⟨b, bs, hb, hbs, rfl⟩⟩

theorem eq_ok_of_mapM_eq_ok {f : α → Except ε β} {l : List α} {bs : List β}
    (h : l.mapM f = .ok bs) : ∀ a ∈ l, ∃ b, f a = .ok b :=
  exists_mapM_eq_ok_iff.mp ⟨bs, h⟩

/-- A list of parts fails with the fault of one of them, after the ones before succeeded. -/
theorem mapM_eq_error_iff {f : α → Except ε β} {l : List α} {e : ε} :
    l.mapM f = .error e ↔
      ∃ before a after, l = before ++ a :: after ∧ (∃ bs, before.mapM f = .ok bs) ∧
        f a = .error e := by
  induction l with
  | nil => simp [pure_eq]
  | cons a l ih =>
    rw [List.mapM_cons, bind_eq_error_iff]
    constructor
    · rintro (ha | ⟨b, hb, hrest⟩)
      · exact ⟨[], a, l, rfl, ⟨[], rfl⟩, ha⟩
      · obtain ⟨before, c, after, rfl, ⟨bs, hbs⟩, hc⟩ :=
          ih.mp ((bind_eq_error_iff.mp hrest).resolve_right fun ⟨_, _, h⟩ => nomatch h)
        exact ⟨a :: before, c, after, rfl,
          ⟨b :: bs, mapM_cons_eq_ok_iff.mpr ⟨b, bs, hb, hbs, rfl⟩⟩, hc⟩
    · -- the fault is at the head, or behind it with a head that succeeded
      rintro ⟨before, c, after, hl, ⟨_, hbs⟩, hc⟩
      cases before with
      | nil =>
        obtain ⟨rfl, rfl⟩ := List.cons.inj hl
        exact .inl hc
      | cons b before =>
        obtain ⟨rfl, rfl⟩ := List.cons.inj hl
        obtain ⟨d, ds, hd, hds, -⟩ := mapM_cons_eq_ok_iff.mp hbs
        have hrest := ih.mpr ⟨before, c, after, rfl, ⟨ds, hds⟩, hc⟩
        exact .inr ⟨d, hd, bind_eq_error_iff.mpr (.inl hrest)⟩

/-- A fold whose steps write what an outcome comes to: first the outcomes, then the writing. -/
theorem foldlM_eq_map_mapM {σ : Type} {f : α → Except ε β} {write : σ → β → σ}
    {step : σ → α → Except ε σ} (hstep : ∀ s a, step s a = (f a).map (write s)) (l : List α)
    (s : σ) : l.foldlM step s = (l.mapM f).map (·.foldl write s) := by
  -- what was written before differs from step to step
  induction l generalizing s with
  | nil => rfl
  | cons a l ih =>
    rw [List.foldlM_cons, List.mapM_cons, hstep]
    cases f a with
    | error e => rfl
    | ok b =>
      simp only [map_ok, ok_bind, pure_eq, ih]
      cases l.mapM f <;> rfl

/-- The value of an item is among the values of the list. -/
theorem mem_of_mapM_eq_ok {f : α → Except ε β} {l : List α} {bs : List β}
    (h : l.mapM f = .ok bs) {a : α} {b : β} (ha : a ∈ l) (hb : f a = .ok b) : b ∈ bs := by
  induction l generalizing bs with
  | nil => cases ha
  | cons c l ih =>
    obtain ⟨d, ds, hd, hds, rfl⟩ := mapM_cons_eq_ok_iff.mp h
    rcases List.mem_cons.mp ha with rfl | ha
    · rw [hd] at hb
      cases hb
      exact List.mem_cons_self ..
    · exact List.mem_cons_of_mem _ (ih hds ha)

end Except

/-! ## Outcomes of either kind -/

/-- A value has one property, or a fault has another one. -/
inductive Ends {ε α : Type} (F : ε → Prop) (P : α → Prop) : Except ε α → Prop
  /-- the property of values -/
  | ok {a : α} (h : P a) : Ends F P (.ok a)
  /-- the property of faults -/
  | error {e : ε} (h : F e) : Ends F P (.error e)

namespace Ends

variable {ε α β : Type} {F : ε → Prop} {P Q : α → Prop} {R : β → Prop} {x : Except ε α}

/-- What goes on from a value ends as the value goes on. -/
theorem bind {f : α → Except ε β} (hx : Ends F P x) (hf : ∀ a, P a → Ends F R (f a)) :
    Ends F R (x >>= f) := by
  cases hx with
  | ok h => exact hf _ h
  | error h => exact .error h

/-- The value may be known to be less. -/
theorem imp (hx : Ends F P x) (h : ∀ a, P a → Q a) : Ends F Q x := by
  cases hx with
  | ok hP => exact .ok (h _ hP)
  | error hF => exact .error hF

/-- Either branch is enough, under its own condition. -/
theorem ite {c : Prop} [Decidable c] {y : Except ε α} (hx : c → Ends F P x)
    (hy : ¬c → Ends F P y) : Ends F P (if c then x else y) := by
  split
  · exact hx ‹c›
  · exact hy ‹¬c›

/-- The fault of such an outcome is one of the faults that are allowed. -/
theorem fault {e : ε} (hx : Ends F P x) (h : x = .error e) : F e := by
  cases hx with
  | ok => cases h
  | error hF =>
    cases h
    exact hF

end Ends

/-! ## Outcomes with a state -/

/-- Run from a state, a step leaves a value and a state with one property, or a fault with another
one. -/
def Runs {ε σ α : Type} (F : ε → Prop) (P : α → σ → Prop) (s : σ) (m : StateT σ (Except ε) α) :
    Prop :=
  Ends F (fun r => P r.1 r.2) (m.run s)

namespace Runs

variable {ε σ α β : Type} {F : ε → Prop} {P Q : α → σ → Prop} {R : β → σ → Prop} {s : σ}
  {m : StateT σ (Except ε) α}

theorem pure {a : α} (h : P a s) : Runs F P s (pure a) := .ok h

theorem throw {e : ε} (h : F e) : Runs F P s (throw e) := .error h

/-- Steps go on from the value and the state of the steps before. -/
theorem bind {f : α → StateT σ (Except ε) β} (hm : Runs F P s m)
    (hf : ∀ a s', P a s' → Runs F R s' (f a)) : Runs F R s (m >>= f) :=
  Ends.bind hm fun r hr => hf r.1 r.2 hr

/-- Steps that look at the state. -/
theorem get_bind {f : σ → StateT σ (Except ε) β} (hf : Runs F R s (f s)) :
    Runs F R s (get >>= f) :=
  hf

/-- Steps that go on from another state. -/
theorem modify {g : σ → σ} {P : PUnit → σ → Prop} (h : P ⟨⟩ (g s)) :
    Runs F P s (modify g) :=
  .ok h

/-- Either branch is enough, under its own condition. -/
theorem ite {c : Prop} [Decidable c] {n : StateT σ (Except ε) α} (hm : c → Runs F P s m)
    (hn : ¬c → Runs F P s n) : Runs F P s (if c then m else n) := by
  split
  · exact hm ‹c›
  · exact hn ‹¬c›

/-- The value and the state may be known to be less. -/
theorem imp (hm : Runs F P s m) (h : ∀ a s', P a s' → Q a s') : Runs F Q s m :=
  Ends.imp hm fun r hr => h r.1 r.2 hr

/-! What every part of a list keeps, the whole list keeps. -/

variable {I : σ → Prop}

theorem forM {l : List α} {f : α → StateT σ (Except ε) PUnit}
    (hf : ∀ a ∈ l, ∀ s, I s → Runs F (fun _ s' => I s') s (f a)) (hs : I s) :
    Runs F (fun _ s' => I s') s (l.forM f) := by
  induction l generalizing s with
  | nil => exact .pure hs
  | cons a l ih =>
    obtain ⟨ha, hl⟩ := List.forall_mem_cons.mp hf
    exact .bind (ha s hs) fun _ _ hs' => ih hl hs'

theorem mapM {l : List α} {f : α → StateT σ (Except ε) β}
    (hf : ∀ a ∈ l, ∀ s, I s → Runs F (fun _ s' => I s') s (f a)) (hs : I s) :
    Runs F (fun _ s' => I s') s (l.mapM f) := by
  induction l generalizing s with
  | nil => exact .pure hs
  | cons a l ih =>
    obtain ⟨ha, hl⟩ := List.forall_mem_cons.mp hf
    rw [List.mapM_cons]
    exact .bind (ha s hs) fun _ _ hs' => .bind (ih hl hs') fun _ _ hs' => .pure hs'

theorem foldlM {l : List α} {f : β → α → StateT σ (Except ε) β} {b : β}
    (hf : ∀ a ∈ l, ∀ b s, I s → Runs F (fun _ s' => I s') s (f b a)) (hs : I s) :
    Runs F (fun _ s' => I s') s (l.foldlM f b) := by
  induction l generalizing s b with
  | nil => exact .pure hs
  | cons a l ih =>
    obtain ⟨ha, hl⟩ := List.forall_mem_cons.mp hf
    exact .bind (ha b s hs) fun _ _ hs' => ih hl hs'

end Runs

end JenkinsAdmission
