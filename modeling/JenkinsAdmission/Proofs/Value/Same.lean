import JenkinsAdmission.Proofs.Value
import Mathlib.Data.List.Forall2

/-!
# The same document

One document can be kept in many ways: its parts may stand at other places, and what is shared in
one table may be repeated in another. When are two values the same document?

* A **way** leads into a value: to one of its parts, to a part of that, and so on. `Value.Same`
  holds of two values if every way leads to the same in both, and comes back to where it was in both
  or in neither.
* `View.Alike` is what this means one level deep, and all that is asked about fields follows from
  it.
* `Value.Same.written_eq` says that the text of a value depends on the document alone. Texts are
  the only thing about a value for which it matters where a way comes back.
-/

namespace JenkinsAdmission

/-! ## Atoms -/

namespace Atom

/-- An atom without the payload that tells one NaN from another. -/
def unmarked : Atom → Atom
  | float x => float (x.withPayload 0)
  | a => a

/-- Nothing but that payload is lost. -/
theorem eq_or_nan {a b : Atom} (h : a.unmarked = b.unmarked) :
    a = b ∨ ∃ m n, a = .float (.nan m) ∧ b = .float (.nan n) := by
  cases a with
  | float x =>
    cases b with
    | float y =>
      cases x with
      | nan m =>
        cases y with
        | nan n => exact .inr ⟨m, n, rfl, rfl⟩
        | _ => simp [unmarked, Binary64.withPayload] at h
      | _ => cases y <;> simp_all [unmarked, Binary64.withPayload]
    | _ => simp [unmarked] at h
  | _ => cases b <;> simp_all [unmarked]

/-- The mark of an atom is not written. -/
theorem literal_eq {a b : Atom} (h : a.unmarked = b.unmarked) : a.literal = b.literal := by
  rcases eq_or_nan h with rfl | ⟨m, n, rfl, rfl⟩ <;> rfl

theorem literalWithin_eq {a b : Atom} (h : a.unmarked = b.unmarked) (depth : Nat) :
    a.literalWithin depth = b.literalWithin depth := by
  rw [literalWithin, literalWithin, literal_eq h]

theorem written_eq {a b : Atom} (h : a.unmarked = b.unmarked) : a.written = b.written := by
  rcases eq_or_nan h with rfl | ⟨m, n, rfl, rfl⟩ <;> rfl

theorem text?_eq {a b : Atom} (h : a.unmarked = b.unmarked) : a.text? = b.text? := by
  rw [text?, text?, written_eq h]

theorem isFalsy_eq {a b : Atom} (h : a.unmarked = b.unmarked) : a.isFalsy = b.isFalsy := by
  rcases eq_or_nan h with rfl | ⟨m, n, rfl, rfl⟩ <;> rfl

theorem same_text_eq {a b : Atom} (h : a.unmarked = b.unmarked) (key : Text) :
    a.same (.text key) = b.same (.text key) := by
  rcases eq_or_nan h with rfl | ⟨m, n, rfl, rfl⟩ <;> rfl

end Atom

/-! ## Ways -/

/-- What a value is without its parts. -/
inductive Shape
  /-- an atom -/
  | atom (a : Atom)
  /-- a list of some length -/
  | list (length : Nat)
  /-- a mapping with some keys -/
  | mapping (keys : List Atom)
  /-- a list of pairs of some length -/
  | pairs (length : Nat)
  /-- a set with some members -/
  | set (members : List Atom)
  deriving DecidableEq

namespace View

/-- What a view shows without the parts. -/
def shape : View → Shape
  | atom a => .atom a.unmarked
  | list items => .list items.length
  | mapping entries => .mapping (entries.map fun e => e.1.unmarked)
  | pairs items => .pairs items.length
  | set members => .set (members.map Atom.unmarked)

/-- The parts in a view. Of pairs, all that come first stand before all that come second. -/
def parts : View → List Value
  | atom _ => []
  | list items => items
  | mapping entries => entries.map (·.2)
  | pairs items => items.map (·.1) ++ items.map (·.2)
  | set _ => []

end View

namespace Value

/-- The value at the end of a way, which says at each step which part comes next. -/
def follow? (v : Value) : List Nat → Option Value
  | [] => some v
  | i :: way => v.view.parts[i]?.bind fun part => part.follow? way

/-- Two values are the same document, wherever their parts stand. -/
structure Same (v w : Value) : Prop where
  /-- a way leads to the same in both -/
  shape : ∀ way, (v.follow? way).map (·.view.shape) = (w.follow? way).map (·.view.shape)
  /-- a way comes back to where it was in both or in neither -/
  loop : ∀ way more v₁ v₂ w₁ w₂, v.follow? way = some v₁ → v₁.follow? more = some v₂ →
    w.follow? way = some w₁ → w₁.follow? more = some w₂ → (v₁.place = v₂.place ↔ w₁.place = w₂.place)

/-- Every value is the same as itself. -/
theorem Same.refl (v : Value) : v.Same v := by
  refine ⟨fun way => rfl, ?_⟩
  intro way more v₁ v₂ w₁ w₂ hv₁ hv₂ hw₁ hw₂
  obtain rfl := Option.some.inj (hv₁.symm.trans hw₁)
  obtain rfl := Option.some.inj (hv₂.symm.trans hw₂)
  rfl

theorem follow?_cons {v part : Value} {i : Nat} (hpart : v.view.parts[i]? = some part)
    (way : List Nat) : v.follow? (i :: way) = part.follow? way := by
  rw [follow?, hpart, Option.bind_some]

/-- Parts of the same document are the same. -/
theorem Same.part {v w v' w' : Value} {i : Nat} (h : v.Same w) (hv : v.view.parts[i]? = some v')
    (hw : w.view.parts[i]? = some w') : v'.Same w' := by
  constructor
  · intro way
    rw [← follow?_cons hv, ← follow?_cons hw]
    exact h.shape (i :: way)
  · intro way more v₁ v₂ w₁ w₂ hv₁ hv₂ hw₁ hw₂
    rw [← follow?_cons hv] at hv₁
    rw [← follow?_cons hw] at hw₁
    exact h.loop (i :: way) more v₁ v₂ w₁ w₂ hv₁ hv₂ hw₁ hw₂

end Value

/-! ## One level deep -/

/-- Two views of the same kind, with the same atoms and with related parts. -/
inductive View.Alike (R : Value → Value → Prop) : View → View → Prop
  /-- two atoms -/
  | atom {a b : Atom} (hatom : a.unmarked = b.unmarked) : Alike R (.atom a) (.atom b)
  /-- two lists -/
  | list {items items' : List Value} (hitems : List.Forall₂ R items items') :
    Alike R (.list items) (.list items')
  /-- two mappings -/
  | mapping {entries entries' : List (Atom × Value)}
    (hentries : List.Forall₂ (fun e f => e.1.unmarked = f.1.unmarked ∧ R e.2 f.2)
      entries entries') : Alike R (.mapping entries) (.mapping entries')
  /-- two lists of pairs -/
  | pairs {items items' : List (Value × Value)}
    (hitems : List.Forall₂ (fun p q => R p.1 q.1 ∧ R p.2 q.2) items items') :
    Alike R (.pairs items) (.pairs items')
  /-- two sets -/
  | set {members members' : List Atom}
    (hmembers : List.Forall₂ (fun a b => a.unmarked = b.unmarked) members members') :
    Alike R (.set members) (.set members')

theorem forall₂_of_map_eq {α β : Type} {f : α → β} {l l' : List α} (h : l.map f = l'.map f) :
    List.Forall₂ (fun a b => f a = f b) l l' := by
  rw [← List.forall₂_map_right_iff (f := f), ← List.forall₂_map_left_iff (f := f), h]
  exact List.forall₂_refl _

/-- Lists of the same length are related when they are so in each place. -/
theorem forall₂_of_getElem? {α β : Type} {R : α → β → Prop} {l : List α} {l' : List β}
    (hlength : l.length = l'.length)
    (h : ∀ (i : Nat) a b, l[i]? = some a → l'[i]? = some b → R a b) : List.Forall₂ R l l' := by
  rw [List.forall₂_iff_get]
  refine ⟨hlength, ?_⟩
  intro i hi hi'
  exact h i _ _ (List.getElem?_eq_getElem hi) (List.getElem?_eq_getElem hi')

/-- Views of the same shape are alike if their parts are related one by one. -/
theorem View.alike_of_shape {R : Value → Value → Prop} {x y : View} (hshape : x.shape = y.shape)
    (hparts : ∀ (i : Nat) v w, x.parts[i]? = some v → y.parts[i]? = some w → R v w) :
    Alike R x y := by
  cases x with
  | atom a =>
    cases y <;> simp only [shape, Shape.atom.injEq, reduceCtorEq] at hshape
    exact .atom hshape
  | list items =>
    cases y <;> simp only [shape, Shape.list.injEq, reduceCtorEq] at hshape
    exact .list (forall₂_of_getElem? hshape hparts)
  | mapping entries =>
    cases y <;> simp only [shape, Shape.mapping.injEq, reduceCtorEq] at hshape
    rename_i entries'
    have hlength : entries.length = entries'.length := by
      simpa using congrArg List.length hshape
    refine .mapping (forall₂_of_getElem? hlength ?_)
    intro i e f he hf
    have hkeys := congrArg (·[i]?) hshape
    simp only [List.getElem?_map, he, hf, Option.map_some, Option.some.injEq] at hkeys
    exact ⟨hkeys, hparts i e.2 f.2 (by simp [parts, he]) (by simp [parts, hf])⟩
  | pairs items =>
    cases y <;> simp only [shape, Shape.pairs.injEq, reduceCtorEq] at hshape
    rename_i items'
    refine .pairs (forall₂_of_getElem? hshape ?_)
    intro i p q hp hq
    have hi : i < items.length := (List.getElem?_eq_some_iff.mp hp).1
    -- the first parts of the pairs come first, and then the second parts
    refine ⟨hparts i p.1 q.1 ?_ ?_, hparts (items.length + i) p.2 q.2 ?_ ?_⟩
    · rw [parts, List.getElem?_append_left (by simpa using hi), List.getElem?_map, hp]
      rfl
    · rw [parts, List.getElem?_append_left (by simpa [← hshape] using hi), List.getElem?_map, hq]
      rfl
    · rw [parts, List.getElem?_append_right (by simp), List.length_map, Nat.add_sub_cancel_left,
        List.getElem?_map, hp]
      rfl
    · rw [parts, List.getElem?_append_right (by simp [hshape]), List.length_map, ← hshape,
        Nat.add_sub_cancel_left, List.getElem?_map, hq]
      rfl
  | set members =>
    cases y <;> simp only [shape, Shape.set.injEq, reduceCtorEq] at hshape
    exact .set (forall₂_of_map_eq hshape)

namespace Value

variable {v w : Value}

/-- One value is a part of `v` and the other one the corresponding part of `w`. -/
def PartsOf (v w v' w' : Value) : Prop :=
  ∃ i : Nat, v.view.parts[i]? = some v' ∧ w.view.parts[i]? = some w'

/-- The same values look alike, one level deep. -/
theorem Same.alike (h : v.Same w) : View.Alike (PartsOf v w) v.view w.view := by
  have hshape : v.view.shape = w.view.shape := Option.some.inj (h.shape [])
  exact View.alike_of_shape hshape fun i v' w' hv hw => ⟨i, hv, hw⟩

end Value

/-! ## Texts -/

/-- The literal of a view, with those of its parts at the depths where they stand. -/
def View.literalWith (depth : Nat) (inside : Nat → Value → Except Breakdown Text) (cyclic : Bool) :
    View → Except Breakdown Text
  | .atom a => a.literal
  | .list items =>
    if cyclic then .ok "[...]"
    else (items.mapM (inside depth)).map (Value.bracket "[" "]")
  | .mapping entries =>
    if cyclic then .ok ("\x7b...\x7d" : Text)
    else
      (entries.mapM fun entry : Atom × Value => do
        let key ← entry.1.literalWithin depth
        let item ← inside depth entry.2
        pure (key ++ ": " ++ item)).map (Value.bracket "\x7b" "\x7d")
  | .pairs items =>
    if cyclic then .ok "[...]"
    else
      match depth with
      | 0 => if items.isEmpty then .ok "[]" else .error .tooDeep
      | depth + 1 =>
        (items.mapM fun pair : Value × Value => do
          let first ← inside depth pair.1
          let second ← inside depth pair.2
          pure (Value.bracket "(" ")" [first, second])).map (Value.bracket "[" "]")
  | .set members => Value.setLiteralWithin depth members

/-- Items that are read alike make lists that are read alike. -/
theorem mapM_eq_of_forall₂ {ε α β γ : Type} {f : α → Except ε γ} {g : β → Except ε γ}
    {l : List α} {l' : List β} (h : List.Forall₂ (fun a b => f a = g b) l l') :
    l.mapM f = l'.mapM g := by
  induction h with
  | nil => rfl
  | cons hhead htail ih => rw [List.mapM_cons, List.mapM_cons, hhead, ih]

theorem isEmpty_eq_of_forall₂ {α β : Type} {R : α → β → Prop} {l : List α} {l' : List β}
    (h : List.Forall₂ R l l') : l.isEmpty = l'.isEmpty := by
  cases h <;> rfl

/-- A value is written by way of its parts, so values that look alike are written alike. -/
theorem View.literalWith_eq {R : Value → Value → Prop} {x y : View} (h : Alike R x y)
    {depth : Nat} {inside inside' : Nat → Value → Except Breakdown Text} {cyclic : Bool}
    (hinside : cyclic = false → ∀ d ≤ depth, ∀ v w, R v w → inside d v = inside' d w) :
    x.literalWith depth inside cyclic = y.literalWith depth inside' cyclic := by
  cases h with
  | atom hatom => exact Atom.literal_eq hatom
  | list hitems =>
    cases cyclic with
    | true => rfl
    | false =>
      have hall := hitems.imp (hinside rfl depth (Nat.le_refl _))
      simp only [literalWith, mapM_eq_of_forall₂ hall]
  | mapping hentries =>
    cases cyclic with
    | true => rfl
    | false =>
      simp only [literalWith]
      rw [mapM_eq_of_forall₂ (hentries.imp _)]
      intro e f hef
      rw [Atom.literalWithin_eq hef.1, hinside rfl depth (Nat.le_refl _) e.2 f.2 hef.2]
  | pairs hitems =>
    cases cyclic with
    | true => rfl
    -- a pair is one level further down
    | false =>
      cases depth with
      | zero => simp only [literalWith, isEmpty_eq_of_forall₂ hitems]
      | succ depth =>
        simp only [literalWith]
        rw [mapM_eq_of_forall₂ (hitems.imp _)]
        intro p q hpq
        have hdepth : depth ≤ depth + 1 := Nat.le_succ _
        rw [hinside rfl depth hdepth p.1 q.1 hpq.1, hinside rfl depth hdepth p.2 q.2 hpq.2]
  | set hmembers =>
    have hall := hmembers.imp fun a b hab => Atom.literalWithin_eq hab (depth - 1)
    simp only [literalWith, Value.setLiteralWithin, mapM_eq_of_forall₂ hall,
      isEmpty_eq_of_forall₂ hmembers]

namespace Value

variable {v w : Value}

theorem literalWithin_succ (depth : Nat) (above : List Place) (v : Value) :
    v.literalWithin (depth + 1) above =
      v.view.literalWith depth (fun d => literalWithin d (v.place :: above))
        (above.contains v.place) := by
  rw [literalWithin]
  cases v.view with
  | pairs items => cases depth <;> rfl
  | _ => rfl

/-- Places to which the ways into two values come back together. -/
def Loops (v w : Value) (p q : Place) : Prop :=
  ∀ way v' w', v.follow? way = some v' → w.follow? way = some w' → (p = v'.place ↔ q = w'.place)

/-- The same places are found again on both ways up. -/
theorem contains_eq_of_loops {above above' : List Place}
    (h : List.Forall₂ (Loops v w) above above') :
    above.contains v.place = above'.contains w.place := by
  induction h with
  | nil => rfl
  | @cons p q above above' hloops _ ih =>
    have hhere : v.place = p ↔ w.place = q := by
      rw [eq_comm, hloops [] v w rfl rfl, eq_comm]
    rw [List.contains_cons, List.contains_cons, ih]
    simp only [beq_eq_decide, hhere]

/-- The literals of the same document are the same at every depth. -/
theorem literalWithin_eq {depth : Nat} {above above' : List Place} (h : v.Same w)
    (hloops : List.Forall₂ (Loops v w) above above') :
    v.literalWithin depth above = w.literalWithin depth above' := by
  -- a pair goes two levels down, so the induction is a strong one
  induction depth using Nat.strongRecOn generalizing above above' v w with
  | ind depth ih =>
    match depth with
    | 0 => rfl
    | depth + 1 =>
      rw [literalWithin_succ, literalWithin_succ, ← contains_eq_of_loops hloops]
      apply View.literalWith_eq h.alike
      rintro - d hd v' w' ⟨i, hv', hw'⟩
      -- a way into the part is one into the whole, with one more step in front
      have hpart : List.Forall₂ (Loops v' w') (v.place :: above) (w.place :: above') := by
        refine .cons ?_ (hloops.imp ?_)
        · intro way v₂ w₂ hv₂ hw₂
          rw [← follow?_cons hv'] at hv₂
          rw [← follow?_cons hw'] at hw₂
          exact h.loop [] (i :: way) v v₂ w w₂ rfl hv₂ rfl hw₂
        · intro p q hpq way v₂ w₂ hv₂ hw₂
          rw [← follow?_cons hv'] at hv₂
          rw [← follow?_cons hw'] at hw₂
          exact hpq (i :: way) v₂ w₂ hv₂ hw₂
      exact ih d (Nat.lt_succ_of_le hd) (h.part hv' hw') hpart

section

variable [Platform]

/-- The text of a value depends on the document alone, and so does the reason why there is none. -/
theorem Same.written_eq (h : v.Same w) : v.written = w.written := by
  have hliteral : v.literal = w.literal := literalWithin_eq h .nil
  have halike := h.alike
  unfold written
  generalize v.view = x at halike
  generalize w.view = y at halike
  cases halike with
  | atom hatom => exact Atom.written_eq hatom
  | _ => exact hliteral

end

/-! ## Questions and fields -/

/-- Two optional things that are related are both missing, or both there. -/
theorem rel_cases {α β : Type} {R : α → β → Prop} {x : Option α} {y : Option β}
    (h : Option.Rel R x y) :
    (x = none ∧ y = none) ∨ ∃ a b, x = some a ∧ y = some b ∧ R a b := by
  cases h with
  | none => exact .inl ⟨rfl, rfl⟩
  | @some a b hab => exact .inr ⟨a, b, rfl, rfl, hab⟩

/-- The same values are falsy together. -/
theorem Same.isFalsy_eq (h : v.Same w) : v.isFalsy = w.isFalsy := by
  have halike := h.alike
  unfold isFalsy
  generalize v.view = x at halike
  generalize w.view = y at halike
  cases halike with
  | atom hatom => exact Atom.isFalsy_eq hatom
  | list hitems => cases hitems <;> rfl
  | mapping hentries => cases hentries <;> rfl
  | pairs hitems => cases hitems <;> rfl
  | set hmembers => cases hmembers <;> rfl

/-- The same values have the same text. -/
theorem Same.text?_eq (h : v.Same w) : v.text? = w.text? := by
  have halike := h.alike
  unfold text?
  generalize v.view = x at halike
  generalize w.view = y at halike
  cases halike with
  | atom hatom => rcases Atom.eq_or_nan hatom with rfl | ⟨m, n, rfl, rfl⟩ <;> rfl
  | _ => rfl

/-- Entries with the same keys and the same documents under them. -/
def SameEntries (entries entries' : List (Atom × Value)) : Prop :=
  List.Forall₂ (fun e f => e.1.unmarked = f.1.unmarked ∧ e.2.Same f.2) entries entries'

/-- The same values have the same entries, in the same order. -/
theorem Same.entries? (h : v.Same w) : Option.Rel SameEntries v.entries? w.entries? := by
  have halike := h.alike
  have hparts : ∀ v' w', PartsOf v w v' w' → v'.Same w' := by
    rintro v' w' ⟨i, hv', hw'⟩
    exact h.part hv' hw'
  unfold Value.entries?
  generalize v.view = x at halike
  generalize w.view = y at halike
  cases halike with
  | mapping hentries => exact .some (hentries.imp fun e f hef => ⟨hef.1, hparts e.2 f.2 hef.2⟩)
  | _ => exact .none

theorem Same.isMapping_eq (h : v.Same w) : v.isMapping = w.isMapping := by
  rcases rel_cases h.entries? with ⟨hv, hw⟩ | ⟨entries, entries', hv, hw, -⟩
  · rw [isMapping, isMapping, hv, hw]
  · rw [isMapping, isMapping, hv, hw]
    rfl

/-- The same entries have the same value under a key. -/
theorem SameEntries.get? {entries entries' : List (Atom × Value)}
    (h : SameEntries entries entries') (key : Text) :
    Option.Rel Same (Entries.get? entries key) (Entries.get? entries' key) := by
  unfold Entries.get?
  induction h with
  | nil => exact .none
  | @cons e f entries entries' hef _ ih =>
    rw [List.find?_cons, List.find?_cons, Atom.same_text_eq hef.1]
    cases f.1.same (.text key) with
    | true => exact .some hef.2
    | false => exact ih

theorem Same.get? (h : v.Same w) (key : Text) : Option.Rel Same (v.get? key) (w.get? key) := by
  rw [Value.get?, Value.get?]
  rcases rel_cases h.entries? with ⟨hv, hw⟩ | ⟨entries, entries', hv, hw, hsame⟩
  · rw [hv, hw]
    exact .none
  · rw [hv, hw]
    exact hsame.get? key

theorem Same.given? (h : v.Same w) (key : Text) :
    Option.Rel Same (v.given? key) (w.given? key) := by
  rw [Value.given?, Value.given?]
  rcases rel_cases (h.get? key) with ⟨hv, hw⟩ | ⟨v', w', hv, hw, hsame⟩
  · rw [hv, hw]
    exact .none
  · rw [hv, hw, Option.filter_some, Option.filter_some, hsame.isFalsy_eq]
    split
    · exact .some hsame
    · exact .none

end Value

end JenkinsAdmission
