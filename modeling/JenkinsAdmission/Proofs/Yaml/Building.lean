import JenkinsAdmission.Proofs.Yaml.Composing
import JenkinsAdmission.Yaml.Document

/-!
# What stops the builder of values

The builder turns the nodes of a document into a value. Carrying merge keys out changes nodes, but
never the text of a scalar, so every atom is built from the text of a token, or from none
(`Builder.Of`). What stops the builder is a broken rule, a text from which its tag can make nothing,
or a default value that is none (`Tokens.Spoils`). Where the stream says nothing by hand, the tag is
the one that the text itself resolves to, and there are no default values.
-/

namespace JenkinsAdmission.Yaml

/-- What stops the builder of values. -/
inductive Tokens.Spoils (t : Tokens) : Fault → Prop
  /-- a broken rule -/
  | rule (rule : Malformation) : t.Spoils (.malformed rule)
  /-- a text from which its tag makes no atom -/
  | atom {tag : String} {build : Place → Text → Except Fault Atom} {place : Place} {text : Text}
    {fault : Fault} (htag : Repertoire.ofTag? tag = some (.atom build)) (htext : t.Holds text)
    (hresolve : tag = Tag.resolve text ∨ t.Overrides)
    (hbuild : build place text = .error fault) : t.Spoils fault
  /-- a text that is tagged as a time and stands for none -/
  | timestamp {text : Text} {fault : Fault} (htext : t.Holds text)
    (hresolve : Tag.timestamp = Tag.resolve text ∨ t.Overrides)
    (htime : timestampAtom text = .error fault) : t.Spoils fault
  /-- a mapping that is tagged as a time -/
  | timestampMapping (h : t.Overrides) : t.Spoils (.broken .timestampMapping)
  /-- default values that refer to one another for too long -/
  | defaults (h : t.Overrides) : t.Spoils (.broken .tooDeep)

/-- The nodes of the builder are those of a stream. -/
def Builder.Of (b : Builder) (t : Tokens) : Prop :=
  ∀ (i : Nat) (h : i < b.nodes.size), b.nodes[i].IsOf t

/-- The node at a place of the builder. -/
def Builder.nodeAt (b : Builder) (place : Nat) : Node := b.nodes[place]?.getD ⟨Tag.null, .scalar []⟩

/-- The node at a place is one of the stream, also where nothing stands. -/
theorem Builder.Of.nodeAt {b : Builder} {t : Tokens} (h : b.Of t) (place : Nat) :
    (b.nodeAt place).IsOf t := by
  unfold Builder.nodeAt
  cases hnode : b.nodes[place]? with
  | none => exact Node.isOf_empty t
  | some n =>
    obtain ⟨hplace, rfl⟩ := Array.getElem?_eq_some_iff.mp hnode
    exact h place hplace

/-- Only its own tag stands for a time. -/
theorem Repertoire.tag_of_timestamp {tag : String} (h : ofTag? tag = some .timestamp) :
    tag = Tag.timestamp := by
  obtain ⟨before, after, hrows, -⟩ := List.lookup_eq_some_iff.mp h
  have hmem : (tag, timestamp) ∈ before ++ (tag, timestamp) :: after := by simp
  rw [← hrows] at hmem
  simpa using hmem

namespace Build

variable {t : Tokens} {b : Builder}

theorem runs_refuse {α : Type} {P : α → Builder → Prop} (rule : Malformation) :
    Runs t.Spoils P b (refuse rule) :=
  .throw (.rule rule)

/-! ## Nodes -/

/-- Looking at a node changes nothing. -/
theorem runs_node (place : Nat) :
    Runs t.Spoils (fun n b' => b' = b ∧ n = b.nodeAt place) b (node place) :=
  .get_bind (.pure ⟨rfl, rfl⟩)

theorem runs_entriesOf (place : Nat) (rule : Malformation) :
    Runs t.Spoils (fun _ b' => b' = b) b (entriesOf place rule) := by
  refine .bind (runs_node place) ?_
  rintro n _ ⟨rfl, rfl⟩
  split
  · exact .pure rfl
  · exact runs_refuse rule

theorem runs_itemsOf (place : Nat) :
    Runs t.Spoils (fun _ b' => b' = b) b (itemsOf place) := by
  refine .bind (runs_node place) ?_
  rintro n _ ⟨rfl, rfl⟩
  split
  · exact .pure rfl
  · exact runs_refuse _

/-- A tag that is found is that of the node. -/
theorem runs_hasTag (tag : String) (place : Nat) :
    Runs t.Spoils (fun has b' => b' = b ∧ (has = true → (b.nodeAt place).tag = tag)) b
      (hasTag tag place) := by
  refine .bind (runs_node place) ?_
  rintro n _ ⟨rfl, rfl⟩
  exact .pure ⟨rfl, fun h => by simpa using h⟩

/-- An entry that is found has the tag. -/
theorem runs_firstTagged (tag : String) (entries : List (Nat × Nat)) :
    Runs t.Spoils (fun found b' => b' = b ∧ ∀ e ∈ found, (b.nodeAt e.1).tag = tag) b
      (firstTagged tag entries) := by
  induction entries with
  | nil => exact .pure ⟨rfl, fun e he => by cases he⟩
  | cons e rest ih =>
    refine .bind (runs_hasTag tag e.1) ?_
    rintro tagged _ ⟨rfl, htag⟩
    refine .ite (fun htagged => .pure ⟨rfl, ?_⟩) fun _ => ih
    rintro _ ⟨⟩
    exact htag htagged

/-- A default value is looked for only in a stream that has a key for one. -/
theorem overrides_of_firstTagged (h : b.Of t) {found : Option (Nat × Nat)} {e : Nat × Nat}
    (hfound : ∀ e ∈ found, (b.nodeAt e.1).tag = Tag.value) (he : found = some e) : t.Overrides :=
  (h.nodeAt e.1).value (hfound e he)

/-- The text of a node is that of a scalar of the stream. It is another scalar than the node itself
only where the stream has default values. -/
theorem runs_textOf (h : b.Of t) (place : Nat) {fuel : Nat} (hfuel : fuel ≠ 0 ∨ t.Overrides) :
    Runs t.Spoils (fun text b' => b' = b ∧ t.Holds text ∧
      ((b.nodeAt place).shape = .scalar text ∨ t.Overrides)) b (textOf place fuel) := by
  induction fuel generalizing place with
  | zero => exact .throw (.defaults (hfuel.resolve_left fun hne => hne rfl))
  | succ fuel ih =>
    rw [textOf]
    refine .bind (runs_node place) ?_
    rintro n _ ⟨rfl, rfl⟩
    split
    · next text hshape => exact .pure ⟨rfl, (h.nodeAt place).text text hshape, .inl hshape⟩
    · exact runs_refuse _
    · refine .bind (runs_firstTagged _ _) ?_
      rintro found _ ⟨rfl, hfound⟩
      split
      · have hoverrides := overrides_of_firstTagged h hfound rfl
        exact (ih _ (.inr hoverrides)).imp fun _ _ hrun => ⟨hrun.1, hrun.2.1, .inr hoverrides⟩
      · exact runs_refuse _

/-- What a node is tagged as is what its text resolves to, or the stream says so by hand. A string
is the exception. -/
theorem resolve_of_nodeAt (h : b.Of t) {place : Nat} {text : Text}
    (htext : (b.nodeAt place).shape = .scalar text ∨ t.Overrides) :
    (b.nodeAt place).tag = Tag.str ∨ (b.nodeAt place).tag = Tag.resolve text ∨ t.Overrides := by
  rcases htext with hshape | hoverrides
  · exact (h.nodeAt place).tag text hshape
  · exact .inr (.inr hoverrides)

/-! ## Visits -/

theorem runs_setContent (h : b.Of t) (place : Nat) (content : Content) :
    Runs t.Spoils (fun _ b' => b'.Of t) b (setContent place content) :=
  .modify h

theorem runs_await (h : b.Of t) (place : Nat) (content : Content) :
    Runs t.Spoils (fun _ b' => b'.Of t) b (await place content) :=
  .bind (runs_setContent h place content) fun _ _ h => .modify h

/-- A scalar with the tag of a time is one, or it spoils the stream. -/
theorem runs_timestampOf (h : b.Of t) {place : Nat}
    (htag : Repertoire.ofTag? (b.nodeAt place).tag = some .timestamp) :
    Runs t.Spoils (fun _ b' => b' = b) b (timestampOf place) := by
  refine .bind (runs_textOf h place (.inl (by decide))) ?_
  rintro text _ ⟨rfl, hholds, htext⟩
  refine .bind (runs_node place) ?_
  rintro n _ ⟨rfl, rfl⟩
  split
  · cases htime : timestampAtom text with
    | ok a => exact .pure rfl
    | error fault =>
      refine .throw (.timestamp hholds ?_ htime)
      rcases resolve_of_nodeAt h htext with hstr | hresolve | hoverrides
      · rw [hstr] at htag
        cases htag
      · exact .inl (Repertoire.tag_of_timestamp htag ▸ hresolve)
      · exact .inr hoverrides
  · next hshape => exact .throw (.timestampMapping (htext.resolve_left (hshape text)))

/-- A node is visited without leaving the stream, or it spoils it. -/
theorem runs_visit (h : b.Of t) (place : Nat) :
    Runs t.Spoils (fun _ b' => b'.Of t) b (visit place) := by
  refine .get_bind (.ite (fun _ => .pure h) fun _ => .bind (runs_node place) ?_)
  rintro n _ ⟨rfl, rfl⟩
  split
  · exact runs_refuse _
  · refine .bind (runs_textOf h place (.inl (by decide))) ?_
    rintro text _ ⟨rfl, -⟩
    exact runs_setContent h _ _
  · next build htag =>
    refine .bind (runs_textOf h place (.inl (by decide))) ?_
    rintro text _ ⟨rfl, hholds, htext⟩
    cases hbuild : build place text with
    | ok a => exact runs_setContent h _ _
    | error fault =>
      rcases resolve_of_nodeAt h htext with hstr | hresolve
      · -- every text is a string
        rw [hstr] at htag
        cases htag
        cases hbuild
      · exact .throw (.atom htag hholds hresolve hbuild)
  · next htag =>
    refine .bind (runs_timestampOf h htag) ?_
    rintro a _ rfl
    exact runs_setContent h _ _
  · exact runs_await h _ _
  · exact runs_await h _ _
  · exact runs_await h _ _
  · exact runs_await h _ _

theorem runs_keyAt (place : Nat) : Runs t.Spoils (fun _ b' => b' = b) b (keyAt place) := by
  refine .get_bind ?_
  split
  · exact .pure rfl
  · exact runs_refuse _

/-! ## Merge keys -/

/-- The entries of a mapping can be replaced, since no text depends on them. -/
theorem runs_setEntries (h : b.Of t) (place : Nat) (entries : List (Nat × Nat)) :
    Runs t.Spoils (fun _ b' => b'.Of t) b (setEntries place entries) := by
  refine .modify fun i hi => ?_
  have hi' : i < b.nodes.size := by simpa using hi
  simp only [Array.getElem_modify]
  split
  · exact Node.isOf_of_ne_scalar (Shape.mapping_ne_scalar entries) (h i hi').value
  · exact h i hi'

/-- A key for a default value that is made a string is one of the stream still. -/
theorem runs_settleKeys (h : b.Of t) (entries : List (Nat × Nat)) :
    Runs t.Spoils (fun _ b' => b'.Of t) b (settleKeys entries) := by
  refine .forM (I := fun b : Builder => b.Of t) (fun e _ b h => ?_) h
  refine .bind (runs_hasTag _ _) ?_
  rintro tagged b ⟨rfl, -⟩
  refine .ite (fun _ => .modify fun i hi => ?_) fun _ => .pure h
  have hi' : i < b.nodes.size := by simpa using hi
  simp only [Array.getElem_modify]
  split
  · -- a string may have any text
    have hne : Tag.str ≠ Tag.value := by decide
    exact ⟨(h i hi').text, fun _ _ => .inl rfl, fun hvalue => absurd hvalue hne⟩
  · exact h i hi'

theorem runs_isMapping (place : Nat) :
    Runs t.Spoils (fun _ b' => b' = b) b (isMapping place) := by
  refine .bind (runs_node place) ?_
  rintro n _ ⟨rfl, rfl⟩
  split <;> exact .pure rfl

/-- Merge keys are carried out without leaving the stream. -/
theorem runs_mergeInto (h : b.Of t) (place : Nat) (merged : List (Nat × Nat)) (fuel : Nat) :
    Runs t.Spoils (fun _ b' => b'.Of t) b (mergeInto place merged fuel) := by
  induction fuel generalizing b place merged with
  | zero => exact .pure h
  | succ fuel ih =>
    rw [mergeInto]
    refine .bind (runs_entriesOf place _) ?_
    rintro entries _ rfl
    refine .bind (runs_firstTagged _ _) ?_
    rintro found _ ⟨rfl, -⟩
    split
    · exact .bind (runs_settleKeys h _) fun _ b h => runs_setEntries h _ _
    · next key value =>
      refine .bind (runs_setEntries h _ _) fun _ b h => .bind (runs_node value) ?_
      rintro n _ ⟨rfl, rfl⟩
      -- a merge of one mapping, or of a list of mappings
      split
      · refine .bind (ih h _ _) fun _ b h => .bind (runs_entriesOf _ _) ?_
        rintro more _ rfl
        exact ih h _ _
      · next items _ =>
        refine .bind (.mapM (I := fun b : Builder => b.Of t) (fun item _ b h => ?_) h)
          fun groups b h => ih h _ _
        refine .bind (runs_isMapping item) ?_
        rintro mapping _ rfl
        refine .ite (fun _ => .bind (ih h _ _) fun _ b h => ?_) fun _ => runs_refuse _
        -- the call for the item has come back, and its entries are only looked at
        exact (runs_entriesOf _ _).imp fun _ _ heq => heq ▸ h
      · exact runs_refuse _

theorem runs_mergeKeys (h : b.Of t) : Runs t.Spoils (fun _ b' => b'.Of t) b mergeKeys :=
  .get_bind (.pure h)

/-! ## Collections -/

/-- The entries of a mapping are visited in order, the keys before the values. -/
theorem runs_mappingEntries (h : b.Of t) (place : Nat) :
    Runs t.Spoils (fun _ b' => b'.Of t) b (mappingEntries place) := by
  refine .bind (runs_entriesOf place _) ?_
  rintro _ _ rfl
  refine .bind (runs_mergeKeys h) fun merges b h => ?_
  refine .bind (runs_mergeInto h _ _ _) fun _ b h => .bind (runs_entriesOf place _) ?_
  rintro entries _ rfl
  refine .foldlM (I := fun b : Builder => b.Of t) (fun e _ visited b h => ?_) h
  refine .bind (runs_visit h e.1) fun _ b h => .bind (runs_keyAt e.1) ?_
  rintro key _ rfl
  exact .bind (runs_visit h e.2) fun _ _ h => .pure h

theorem runs_pairItems (h : b.Of t) (place : Nat) :
    Runs t.Spoils (fun _ b' => b'.Of t) b (pairItems place) := by
  refine .bind (runs_itemsOf place) ?_
  rintro items _ rfl
  refine .mapM (I := fun b : Builder => b.Of t) (fun item _ b h => ?_) h
  refine .bind (runs_entriesOf item _) ?_
  rintro entries _ rfl
  split
  · exact .bind (runs_visit h _) fun _ _ h => .bind (runs_visit h _) fun _ _ h => .pure h
  · exact runs_refuse _

/-- A collection is completed from the nodes of the stream. -/
theorem runs_complete (h : b.Of t) (place : Nat) :
    Runs t.Spoils (fun _ b' => b'.Of t) b (complete place) := by
  refine .bind (runs_node place) ?_
  rintro n _ ⟨rfl, rfl⟩
  split
  · refine .bind (runs_itemsOf place) ?_
    rintro items _ rfl
    refine .bind (.forM (I := fun b : Builder => b.Of t) (fun item _ b h => runs_visit h item) h) ?_
    exact fun _ b h => runs_setContent h _ _
  · exact .bind (runs_mappingEntries h place) fun _ _ h => runs_setContent h _ _
  · exact .bind (runs_mappingEntries h place) fun _ _ h => runs_setContent h _ _
  · exact .bind (runs_pairItems h place) fun _ _ h => runs_setContent h _ _
  · exact .pure h

theorem runs_completeFrom (h : b.Of t) (i fuel : Nat) :
    Runs t.Spoils (fun _ b' => b'.Of t) b (completeFrom i fuel) := by
  induction fuel generalizing b i with
  | zero => exact .pure h
  | succ fuel ih =>
    rw [completeFrom]
    refine .get_bind ?_
    split
    · exact .pure h
    · exact .bind (runs_complete h _) fun _ _ h => ih h _

/-- Building a document stops only at what spoils its stream. -/
theorem runs_document (h : b.Of t) (root : Nat) :
    Runs t.Spoils (fun _ b' => b'.Of t) b (document root) :=
  .bind (runs_visit h root) fun _ _ h => .get_bind (runs_completeFrom h _ _)

end Build

/-! ## Streams -/

/-- The value of a document is built unless something spoils its stream. -/
theorem spoils_of_valueOf {t : Tokens} {nodes : Array Node} {root : Nat} {fault : Fault}
    (hnodes : ∀ (i : Nat) (h : i < nodes.size), nodes[i].IsOf t)
    (h : valueOf nodes root = .error fault) : t.Spoils fault := by
  have hstart : (⟨nodes, Array.replicate nodes.size none, #[]⟩ : Builder).Of t := hnodes
  have hrun := Build.runs_document hstart root
  exact hrun.fault ((Except.bind_eq_error_iff.mp h).resolve_right fun ⟨_, _, h⟩ => by cases h)

/-- The values of the documents from some place on. -/
theorem stops_or_spoils_of_valuesFrom {t : Tokens} {c : Composer} (hc : c.Of t)
    {next : Compose (Option Nat)} (hnext : ∀ {c : Composer}, c.Of t →
      Runs t.Stops (fun _ c' => c'.Of t) c next) {fuel : Nat} {fault : Fault}
    (h : valuesFrom c next fuel = .error fault) : t.Stops fault ∨ t.Spoils fault := by
  induction fuel generalizing c next with
  | zero => cases h
  | succ fuel ih =>
    have hread := hnext hc
    rcases Except.bind_eq_error_iff.mp h with herror | ⟨⟨root, c'⟩, hok, hrest⟩
    · exact .inl (hread.fault herror)
    · rw [Runs, hok] at hread
      cases hread with
      | ok hc' =>
        cases root with
        | none => cases hrest
        | some root =>
          rcases Except.bind_eq_error_iff.mp hrest with hvalue | ⟨value, -, hothers⟩
          · exact .inr (spoils_of_valueOf hc'.scalars hvalue)
          · rcases Except.bind_eq_error_iff.mp hothers with hlater | ⟨_, -, h⟩
            · exact ih hc' (fun hc => Compose.runs_markedDocument? hc) hlater
            · cases h

/-- **The values of a stream of tokens** are read and built unless something stops the reader or
spoils the stream. -/
theorem Tokens.stops_or_spoils {t : Tokens} {fault : Fault} (h : t.values = .error fault) :
    t.Stops fault ∨ t.Spoils fault := by
  have hstart : (⟨t, #[], [], [], 0⟩ : Composer).Of t :=
    ⟨⟨List.suffix_rfl, rfl, fun i hi => absurd hi (Nat.not_lt_zero i)⟩, by simp⟩
  exact stops_or_spoils_of_valuesFrom hstart (fun hc => Compose.runs_firstDocument? hc) h

end JenkinsAdmission.Yaml
