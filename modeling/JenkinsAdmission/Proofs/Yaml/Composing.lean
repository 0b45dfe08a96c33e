import JenkinsAdmission.Proofs.Outcome
import JenkinsAdmission.Yaml.Node

/-!
# What stops the reader of nodes

The reader of nodes uses the tokens of a stream up. It stops where a rule is broken, where the
tokens are cut off, and where too many collections are open (`Tokens.Stops`). It makes nothing up:
the text of a scalar is that of a token, or empty where a scalar is left out, and its tag is the one
that its text resolves to, unless the stream says something else by hand (`Node.IsOf`).

How deep a stream is shows in its tokens, since every collection is opened by one (`Token.opens`):
the collections that are open and the tokens that can open more are together not more than the
tokens that open something at all. `Composer.Of` keeps the account.
-/

namespace JenkinsAdmission.Yaml

/-- Whether a token can open a collection. The dash and the key do so where no other token tells the
start of the collection. -/
def Token.opens : Token → Bool
  | .blockSequenceStart | .blockMappingStart | .flowSequenceStart | .flowMappingStart
  | .blockEntry | .key => true
  | _ => false

/-- The number of collections that tokens can open. -/
def Token.openings (tokens : List Token) : Nat := tokens.countP Token.opens

/-- A text of a scalar of a stream, which is empty where the scalar is left out. -/
def Tokens.Holds (t : Tokens) (text : Text) : Prop :=
  text = [] ∨ ∃ plain, .scalar text plain ∈ t.tokens

/-- The stream says by hand what some text stands for: by a tag, or by a key for a default value. -/
def Tokens.Overrides (t : Tokens) : Prop :=
  (∃ written, .tag written ∈ t.tokens) ∨ ∃ text, t.Holds text ∧ Tag.resolve text = Tag.value

/-- A node with nothing about it that is not in the stream. -/
structure Node.IsOf (n : Node) (t : Tokens) : Prop where
  /-- the text of a scalar is one of the stream -/
  text : ∀ text, n.shape = .scalar text → t.Holds text
  /-- its tag says that it is a string, or is that of its text -/
  tag : ∀ text, n.shape = .scalar text →
    n.tag = Tag.str ∨ n.tag = Tag.resolve text ∨ t.Overrides
  /-- only what stands in the stream makes it a key for a default value -/
  value : n.tag = Tag.value → t.Overrides

theorem Tokens.holds_nil (t : Tokens) : t.Holds [] := .inl rfl

theorem Shape.sequence_ne_scalar (items : List Nat) (text : Text) :
    sequence items ≠ .scalar text :=
  Shape.noConfusion

theorem Shape.mapping_ne_scalar (entries : List (Nat × Nat)) (text : Text) :
    mapping entries ≠ .scalar text :=
  Shape.noConfusion

/-- A collection has no text, and its tag is not that of a text. -/
theorem Node.isOf_of_ne_scalar {n : Node} {t : Tokens} (h : ∀ text, n.shape ≠ .scalar text)
    (hvalue : n.tag = Tag.value → t.Overrides) : n.IsOf t :=
  ⟨fun text htext => absurd htext (h text), fun text htext => absurd htext (h text), hvalue⟩

/-- An empty scalar without properties is a null. -/
theorem Node.isOf_empty (t : Tokens) : (⟨Tag.null, .scalar []⟩ : Node).IsOf t := by
  refine ⟨?_, ?_, fun h => absurd h (by decide)⟩
  · rintro _ ⟨⟩
    exact t.holds_nil
  · rintro _ ⟨⟩
    exact .inr (.inl (by decide))

/-- A scalar is one of the stream if its text is, and if a tag that was written is. -/
theorem Node.isOf_scalar {t : Tokens} {text : Text} (htext : t.Holds text) (plain : Bool)
    {written : Option String} (hwritten : written.isSome = true → t.Overrides) :
    (⟨Compose.scalarTag written text plain, .scalar text⟩ : Node).IsOf t := by
  have htag : Compose.scalarTag written text plain = Tag.str ∨
      Compose.scalarTag written text plain = Tag.resolve text ∨ t.Overrides := by
    cases written with
    | some _ => exact .inr (.inr (hwritten rfl))
    | none => cases plain <;> simp [Compose.scalarTag]
  refine ⟨?_, ?_, fun hvalue => ?_⟩
  · rintro _ ⟨⟩
    exact htext
  · rintro _ ⟨⟩
    exact htag
  · rcases htag with hstr | hresolve | hoverrides
    · exact absurd (hstr.symm.trans hvalue) (by decide)
    · exact .inr ⟨text, htext, hresolve.symm.trans hvalue⟩
    · exact hoverrides

/-- The tag of a collection makes it a key for a default value only if it was written. -/
theorem overrides_of_collectionTag {t : Tokens} {written : Option String} {default : String}
    (hwritten : written.isSome = true → t.Overrides) (hdefault : default ≠ Tag.value)
    (h : Compose.collectionTag written default = Tag.value) : t.Overrides := by
  cases written with
  | none => exact absurd h hdefault
  | some _ => exact hwritten rfl

/-- What stops the reader of nodes. -/
inductive Tokens.Stops (t : Tokens) : Fault → Prop
  /-- a broken rule -/
  | rule (rule : Malformation) : t.Stops (.malformed rule)
  /-- the fault that cuts the tokens off -/
  | cut {fault : Fault} (h : t.fault = some fault) : t.Stops fault
  /-- more openings than collections may be open -/
  | tooDeep (h : Compose.maxDepth < Token.openings t.tokens) : t.Stops (.broken .tooDeep)

/-- The reader is somewhere in a stream of tokens. -/
structure Composer.In (c : Composer) (t : Tokens) : Prop where
  /-- the tokens that are left are left of the stream -/
  suffix : c.input.tokens <:+ t.tokens
  /-- they are cut off by the same fault -/
  fault : c.input.fault = t.fault
  /-- the scalars are those of the stream -/
  scalars : ∀ (i : Nat) (h : i < c.nodes.size), c.nodes[i].IsOf t

/-- The reader is in a stream, and there is an opening for every open collection. -/
structure Composer.Of (c : Composer) (t : Tokens) : Prop extends c.In t where
  /-- the openings that are left are not among those of the open collections -/
  opened : c.depth + Token.openings c.input.tokens ≤ Token.openings t.tokens

/-- The reader is in a stream, and there is an opening for one more collection. -/
structure Composer.HasRoom (c : Composer) (t : Tokens) : Prop extends c.In t where
  /-- one of the openings that were used up has not been accounted for -/
  room : c.depth + Token.openings c.input.tokens < Token.openings t.tokens

/-- The reader has opened a collection at its first dash, which has not been used up. -/
structure Composer.AtDash (c : Composer) (t : Tokens) : Prop extends c.In t where
  /-- the dash comes next -/
  dash : c.input.tokens.head? = some .blockEntry
  /-- it is the opening of the collection -/
  opened : c.depth + Token.openings c.input.tokens ≤ Token.openings t.tokens + 1

/-- Room for a collection need not be used. -/
theorem Composer.HasRoom.of {c : Composer} {t : Tokens} (h : c.HasRoom t) : c.Of t :=
  ⟨h.toIn, Nat.le_of_lt h.room⟩

namespace Compose

variable {t : Tokens} {c : Composer}

theorem runs_refuse {α : Type} {P : α → Composer → Prop} (rule : Malformation) :
    Runs t.Stops P c (refuse rule) :=
  .throw (.rule rule)

/-! ## Tokens -/

/-- Looking at the next token leaves everything as it is. -/
theorem runs_peek (h : c.In t) :
    Runs t.Stops (fun tok c' => c' = c ∧ c.input.tokens.head? = some tok) c peek := by
  refine .get_bind ?_
  simp only
  split
  · next tok rest htokens => exact .pure ⟨rfl, by rw [htokens]; rfl⟩
  · next fault _ hfault => exact .throw (.cut (h.fault ▸ hfault))
  · exact runs_refuse _

/-- Using a token up leaves the account in order. -/
theorem runs_drop (h : c.Of t) : Runs t.Stops (fun _ c' => c'.Of t) c drop := by
  refine .modify ⟨⟨(List.tail_suffix _).trans h.suffix, h.fault, h.scalars⟩, ?_⟩
  have hle : Token.openings c.input.tokens.tail ≤ Token.openings c.input.tokens :=
    (List.tail_sublist _).countP_le
  have := h.opened
  simp only
  omega

/-- Using an opening up makes room for a collection. -/
theorem runs_drop_opening (h : c.Of t) {tok : Token} (hhead : c.input.tokens.head? = some tok)
    (hopens : tok.opens = true) : Runs t.Stops (fun _ c' => c'.HasRoom t) c drop := by
  refine .modify ⟨⟨(List.tail_suffix _).trans h.suffix, h.fault, h.scalars⟩, ?_⟩
  obtain ⟨rest, hrest⟩ := List.head?_eq_some_iff.mp hhead
  have hopened := h.opened
  have hcount : Token.openings (tok :: rest) = Token.openings rest + 1 :=
    List.countP_cons_of_pos hopens
  rw [hrest] at hopened ⊢
  simp only [List.tail_cons]
  omega

/-- A token that may be there is used up or left. -/
theorem runs_accept (h : c.Of t) (tok : Token) :
    Runs t.Stops (fun _ c' => c'.Of t) c (accept tok) := by
  refine .bind (runs_peek h.toIn) ?_
  rintro next _ ⟨rfl, -⟩
  refine .ite (fun _ => ?_) fun _ => .pure h
  exact .bind (runs_drop h) fun _ _ h => .pure h

/-- Accepting an opening makes room for a collection. -/
theorem runs_accept_opening (h : c.Of t) {tok : Token} (hopens : tok.opens = true) :
    Runs t.Stops (fun used c' => c'.Of t ∧ (used = true → c'.HasRoom t)) c (accept tok) := by
  refine .bind (runs_peek h.toIn) ?_
  rintro next _ ⟨rfl, hhead⟩
  refine .ite (fun heq => ?_) fun _ => .pure ⟨h, nofun⟩
  refine .bind (runs_drop_opening h hhead (heq ▸ hopens)) fun _ _ h => .pure ⟨h.of, fun _ => h⟩

/-- The dash that a collection was opened at is accepted, and then the account is in order. -/
theorem runs_accept_dash (h : c.AtDash t) :
    Runs t.Stops (fun used c' => used = true ∧ c'.Of t) c (accept .blockEntry) := by
  refine .bind (runs_peek h.toIn) ?_
  rintro next _ ⟨rfl, hhead⟩
  obtain rfl := Option.some.inj (hhead.symm.trans h.dash)
  refine .ite (fun _ => ?_) fun hne => absurd rfl hne
  refine .bind (.modify ?_) fun _ _ h => .pure ⟨rfl, h⟩
  refine ⟨⟨(List.tail_suffix _).trans h.suffix, h.fault, h.scalars⟩, ?_⟩
  obtain ⟨rest, hrest⟩ := List.head?_eq_some_iff.mp hhead
  have hopened := h.opened
  have hcount : Token.openings (.blockEntry :: rest) = Token.openings rest + 1 :=
    List.countP_cons_of_pos rfl
  rw [hrest] at hopened ⊢
  simp only [List.tail_cons]
  omega

theorem runs_expect (h : c.Of t) (tok : Token) :
    Runs t.Stops (fun _ c' => c'.Of t) c (expect tok) :=
  .bind (runs_accept h tok) fun _ _ h => .ite (fun _ => runs_refuse _) fun _ => .pure h

theorem runs_follows (h : c.In t) (ts : List Token) :
    Runs t.Stops (fun _ c' => c' = c) c (follows ts) := by
  refine .bind (runs_peek h) ?_
  rintro next _ ⟨rfl, -⟩
  exact .pure rfl

/-! ## Places -/

/-- A node of the stream may be added. -/
theorem In.push (h : c.In t) {n : Node} (hn : n.IsOf t) :
    ({ c with nodes := c.nodes.push n } : Composer).In t := by
  refine ⟨h.suffix, h.fault, fun i hi => ?_⟩
  simp only [Array.getElem_push]
  split
  · exact h.scalars i _
  · exact hn

/-- Another shape leaves the tag what it was. -/
theorem In.reshape (h : c.In t) {shape : Shape} (hshape : ∀ text, shape ≠ .scalar text)
    (place depth : Nat) :
    ({ c with
      nodes := c.nodes.modify place fun n => { n with shape := shape }
      depth := depth } : Composer).In t := by
  refine ⟨h.suffix, h.fault, fun i hi => ?_⟩
  simp only [Array.getElem_modify]
  split
  · exact Node.isOf_of_ne_scalar hshape (h.scalars i (by simpa using hi)).value
  · exact h.scalars i _

theorem runs_add (h : c.Of t) {n : Node} (hn : n.IsOf t) :
    Runs t.Stops (fun _ c' => c'.Of t) c (add n) :=
  .get_bind (.bind (.modify ⟨In.push h.toIn hn, h.opened⟩) fun _ _ h => .pure h)

theorem runs_name (h : c.Of t) (anchor : Option String) (place : Nat) :
    Runs t.Stops (fun _ c' => c'.Of t) c (name anchor place) := by
  cases anchor with
  | none => exact .pure h
  | some a => exact .modify ⟨⟨h.suffix, h.fault, h.scalars⟩, h.opened⟩

theorem runs_empty (h : c.Of t) : Runs t.Stops (fun _ c' => c'.Of t) c empty :=
  runs_add h (Node.isOf_empty t)

/-- A part that is left out is an empty scalar. -/
theorem runs_orEmpty (h : c.Of t) (before : List Token) {part : Compose Nat}
    (hpart : Runs t.Stops (fun _ c' => c'.Of t) c part) :
    Runs t.Stops (fun _ c' => c'.Of t) c (orEmpty before part) := by
  refine .bind (runs_follows h.toIn before) ?_
  rintro follows _ rfl
  exact .ite (fun _ => runs_empty h) fun _ => hpart

/-! ## Properties -/

theorem runs_anchor? (h : c.Of t) : Runs t.Stops (fun _ c' => c'.Of t) c anchor? := by
  refine .bind (runs_peek h.toIn) ?_
  rintro next _ ⟨rfl, -⟩
  split
  · exact .bind (runs_drop h) fun _ _ h => .pure h
  · exact .pure h

/-- A tag that was found stands in the stream. -/
theorem runs_tagName? (h : c.Of t) :
    Runs t.Stops (fun written c' => c'.Of t ∧ (written.isSome = true → t.Overrides)) c
      tagName? := by
  refine .bind (runs_peek h.toIn) ?_
  rintro next _ ⟨rfl, hnext⟩
  split
  · have htag := h.suffix.subset (List.mem_of_mem_head? hnext)
    exact .bind (runs_drop h) fun _ _ h => .pure ⟨h, fun _ => .inl ⟨_, htag⟩⟩
  · exact .pure ⟨h, fun hsome => by cases hsome⟩

/-- Properties are used up in either order, and a tag among them stands in the stream. -/
theorem runs_properties (h : c.Of t) :
    Runs t.Stops (fun p c' => c'.Of t ∧ (p.2.isSome = true → t.Overrides)) c properties := by
  refine .bind (runs_anchor? h) fun anchor c h => ?_
  cases anchor with
  | some a => exact .bind (runs_tagName? h) fun _ _ h => .pure h
  | none =>
    refine .bind (runs_tagName? h) fun written c h => ?_
    cases written with
    | some tag => exact .bind (runs_anchor? h.1) fun _ _ hin => .pure ⟨hin, h.2⟩
    | none => exact .pure h

theorem runs_fullTag (h : c.Of t) (written : TagName) :
    Runs t.Stops (fun _ c' => c'.Of t) c (fullTag written) := by
  rw [fullTag]
  split
  · exact .pure h
  · refine .get_bind ?_
    split
    · exact .pure h
    · exact runs_refuse _

/-- There is a full tag only where one was written. -/
theorem runs_mapM_fullTag (h : c.Of t) {written : Option TagName}
    (hwritten : written.isSome = true → t.Overrides) :
    Runs t.Stops (fun tag c' => c'.Of t ∧ (tag.isSome = true → t.Overrides)) c
      (written.mapM fullTag) := by
  cases written with
  | none => exact .pure ⟨h, hwritten⟩
  | some tag => exact .bind (runs_fullTag h tag) fun _ _ h => .pure ⟨h, fun _ => hwritten rfl⟩

theorem runs_expectFresh (anchor : Option String) :
    Runs t.Stops (fun _ c' => c' = c) c (expectFresh anchor) :=
  .get_bind (.ite (fun _ => runs_refuse _) fun _ => .pure rfl)

theorem runs_separator (h : c.Of t) (first : Bool) :
    Runs t.Stops (fun _ c' => c'.Of t) c (separator first) :=
  .ite (fun _ => .pure h) fun _ => runs_expect h _

/-! ## Collections -/

/-- A collection is opened where there is room, or there are too many openings. -/
theorem runs_openCollection (h : c.HasRoom t) (anchor : Option String) {tag : String}
    (htag : tag = Tag.value → t.Overrides) :
    Runs t.Stops (fun _ c' => c'.Of t) c (openCollection anchor tag) := by
  have hroom := h.room
  refine .get_bind (.ite (fun hdeep => .throw (.tooDeep (by omega))) fun _ => ?_)
  have hopened : ({ c with depth := c.depth + 1 } : Composer).Of t := by
    refine ⟨⟨h.suffix, h.fault, h.scalars⟩, ?_⟩
    simp only
    omega
  refine .bind (.modify (P := fun _ c' => c'.Of t) hopened) fun _ c h => ?_
  have hnode : (⟨tag, .sequence []⟩ : Node).IsOf t :=
    Node.isOf_of_ne_scalar (Shape.sequence_ne_scalar []) htag
  refine .bind (runs_add h hnode) fun place c h => ?_
  exact .bind (runs_name h anchor place) fun _ _ h => .pure h

/-- A collection is opened at a dash, or there are too many openings. -/
theorem runs_openCollection_atDash (h : c.Of t)
    (hdash : c.input.tokens.head? = some .blockEntry) (anchor : Option String) {tag : String}
    (htag : tag = Tag.value → t.Overrides) :
    Runs t.Stops (fun _ c' => c'.AtDash t) c (openCollection anchor tag) := by
  have hopened := h.opened
  obtain ⟨rest, hrest⟩ := List.head?_eq_some_iff.mp hdash
  have hcount : Token.openings (.blockEntry :: rest) = Token.openings rest + 1 :=
    List.countP_cons_of_pos rfl
  rw [hrest, hcount] at hopened
  refine .get_bind (.ite (fun hdeep => .throw (.tooDeep (by omega))) fun _ => ?_)
  -- the dash is not used up yet, so there is one opening more than the account asks for
  have hatDash : ({ c with depth := c.depth + 1 } : Composer).AtDash t := by
    refine ⟨⟨h.suffix, h.fault, h.scalars⟩, hdash, ?_⟩
    simp only [hrest, hcount]
    omega
  refine .bind (.modify (P := fun _ c' => c'.AtDash t) hatDash) fun _ c h => ?_
  have hpushed : ({ c with nodes := c.nodes.push ⟨tag, .sequence []⟩ } : Composer).AtDash t :=
    ⟨In.push h.toIn (Node.isOf_of_ne_scalar (Shape.sequence_ne_scalar []) htag), h.dash, h.opened⟩
  have hadd : Runs t.Stops (fun _ c' => c'.AtDash t) c (add ⟨tag, .sequence []⟩) :=
    .get_bind (.bind (.modify hpushed) fun _ _ h => .pure h)
  refine .bind hadd fun place c h => ?_
  cases anchor with
  | none => exact .pure h
  | some a =>
    exact .bind (.modify ⟨⟨h.suffix, h.fault, h.scalars⟩, h.dash, h.opened⟩) fun _ _ h => .pure h

/-- A collection that is closed gives its opening back. -/
theorem runs_closeCollection (h : c.Of t) {shape : Shape} (hshape : ∀ text, shape ≠ .scalar text)
    (place : Nat) : Runs t.Stops (fun _ c' => c'.Of t) c (closeCollection place shape) := by
  have hopened := h.opened
  refine .bind (.modify ⟨In.reshape h.toIn hshape place _, ?_⟩) fun _ _ h => .pure h
  simp only
  omega

/-! ## Nodes -/

/-- What the readers of the grammar keep when their calls go so deep. -/
structure Keeps (t : Tokens) (fuel : Nat) : Prop where
  /-- a node -/
  node : ∀ {c : Composer}, c.Of t → ∀ block indentless,
    Runs t.Stops (fun _ c' => c'.Of t) c (node block indentless fuel)
  /-- the items of a block sequence -/
  blockItems : ∀ {c : Composer}, c.Of t →
    Runs t.Stops (fun _ c' => c'.Of t) c (blockItems fuel)
  /-- the items of a sequence that is not indented, from its first dash or a later one -/
  indentlessItems : ∀ {c : Composer}, c.Of t ∨ c.AtDash t →
    Runs t.Stops (fun _ c' => c'.Of t) c (indentlessItems fuel)
  /-- the entries of a block mapping -/
  blockEntries : ∀ {c : Composer}, c.Of t →
    Runs t.Stops (fun _ c' => c'.Of t) c (blockEntries fuel)
  /-- the value of an entry of a block mapping -/
  blockValue : ∀ {c : Composer}, c.Of t →
    Runs t.Stops (fun _ c' => c'.Of t) c (blockValue fuel)
  /-- the items of a flow sequence -/
  flowItems : ∀ {c : Composer}, c.Of t → ∀ first,
    Runs t.Stops (fun _ c' => c'.Of t) c (flowItems first fuel)
  /-- the entries of a flow mapping -/
  flowEntries : ∀ {c : Composer}, c.Of t → ∀ first,
    Runs t.Stops (fun _ c' => c'.Of t) c (flowEntries first fuel)
  /-- a part inside brackets -/
  flowPart : ∀ {c : Composer}, c.Of t → ∀ before,
    Runs t.Stops (fun _ c' => c'.Of t) c (flowPart before fuel)
  /-- the value of an entry inside brackets -/
  flowValue : ∀ {c : Composer}, c.Of t → ∀ before,
    Runs t.Stops (fun _ c' => c'.Of t) c (flowValue before fuel)

/-- A collection whose parts are read between its opening and its end. -/
theorem runs_collection (h : c.HasRoom t) (anchor : Option String) {tag : String}
    (htag : tag = Tag.value → t.Overrides) {α : Type} {parts : Compose α} {shape : α → Shape}
    (hshape : ∀ a text, shape a ≠ .scalar text)
    (hparts : ∀ {c : Composer}, c.Of t → Runs t.Stops (fun _ c' => c'.Of t) c parts) :
    Runs t.Stops (fun _ c' => c'.Of t) c (do
      let place ← openCollection anchor tag
      closeCollection place (shape (← parts))) :=
  .bind (runs_openCollection h anchor htag) fun place _ h => .bind (hparts h) fun a _ h =>
    runs_closeCollection h (hshape a) place

variable {fuel : Nat} (ih : Keeps t fuel)
include ih

/-- A node in every place where there may be one. -/
theorem runs_node (h : c.Of t) (block indentless : Bool) :
    Runs t.Stops (fun _ c' => c'.Of t) c (node block indentless (fuel + 1)) := by
  rw [node]
  refine .bind (runs_peek h.toIn) ?_
  rintro first _ ⟨rfl, hfirst⟩
  split
  · refine .bind (runs_drop h) fun _ c h => .get_bind ?_
    split
    · exact .pure h
    · exact runs_refuse _
  · refine .bind (runs_properties h) ?_
    rintro ⟨anchor, written⟩ c ⟨h, hwritten⟩
    refine .bind (runs_mapM_fullTag h hwritten) ?_
    rintro tag c ⟨h, htag⟩
    have hseq := overrides_of_collectionTag htag (show Tag.seq ≠ Tag.value by decide)
    have hmap := overrides_of_collectionTag htag (show Tag.map ≠ Tag.value by decide)
    refine .bind (runs_peek h.toIn) ?_
    rintro next _ ⟨rfl, hnext⟩
    refine .bind (runs_expectFresh anchor) ?_
    rintro _ _ rfl
    refine .ite (fun hdash => ?_) fun _ => ?_
    · -- a sequence that is not indented is opened by its first dash, which is left to be used up
      obtain rfl : next = .blockEntry := by simpa using (Bool.and_eq_true_iff.mp hdash).2
      refine .bind (runs_openCollection_atDash h hnext anchor hseq) fun place c h => ?_
      refine .bind (ih.indentlessItems (.inr h)) fun items c h => ?_
      exact runs_closeCollection h (Shape.sequence_ne_scalar items) place
    · split
      · next text plain _ =>
        have htext : t.Holds text := .inr ⟨plain, h.suffix.subset (List.mem_of_mem_head? hnext)⟩
        have hscalar := Node.isOf_scalar htext plain htag
        refine .bind (runs_drop h) fun _ c h => .bind (runs_add h hscalar) fun place c h => ?_
        exact .bind (runs_name h anchor place) fun _ _ h => .pure h
      · refine .bind (runs_drop_opening h hnext rfl) fun _ c h => ?_
        exact runs_collection h _ hseq Shape.sequence_ne_scalar fun h => ih.flowItems h true
      · refine .bind (runs_drop_opening h hnext rfl) fun _ c h => ?_
        exact runs_collection h _ hmap Shape.mapping_ne_scalar fun h => ih.flowEntries h true
      · refine .ite (fun _ => runs_refuse _) fun _ => ?_
        refine .bind (runs_drop_opening h hnext rfl) fun _ c h => ?_
        exact runs_collection h _ hseq Shape.sequence_ne_scalar ih.blockItems
      · refine .ite (fun _ => runs_refuse _) fun _ => ?_
        refine .bind (runs_drop_opening h hnext rfl) fun _ c h => ?_
        exact runs_collection h _ hmap Shape.mapping_ne_scalar ih.blockEntries
      · -- only properties: the scalar is left out
        refine .ite (fun _ => runs_refuse _) fun _ => ?_
        have hscalar := Node.isOf_scalar t.holds_nil true htag
        refine .bind (runs_add h hscalar) fun place c h => ?_
        exact .bind (runs_name h anchor place) fun _ _ h => .pure h

theorem runs_blockItems (h : c.Of t) :
    Runs t.Stops (fun _ c' => c'.Of t) c (blockItems (fuel + 1)) := by
  rw [blockItems]
  refine .bind (runs_accept h _) fun used c h => .ite (fun _ => ?_) fun _ => ?_
  · refine .bind (runs_orEmpty h _ (ih.node h _ _)) fun item c h => ?_
    exact .bind (ih.blockItems h) fun _ _ h => .pure h
  · exact .bind (runs_expect h _) fun _ _ h => .pure h

/-- The first dash is that of the collection, and the later ones open nothing. -/
theorem runs_indentlessItems (h : c.Of t ∨ c.AtDash t) :
    Runs t.Stops (fun _ c' => c'.Of t) c (indentlessItems (fuel + 1)) := by
  have haccept : Runs t.Stops (fun _ c' => c'.Of t) c (accept .blockEntry) := by
    rcases h with h | h
    · exact runs_accept h _
    · exact (runs_accept_dash h).imp fun _ _ h => h.2
  rw [indentlessItems]
  refine .bind haccept fun used c h => .ite (fun _ => ?_) fun _ => .pure h
  refine .bind (runs_orEmpty h _ (ih.node h _ _)) fun item c h => ?_
  exact .bind (ih.indentlessItems (.inl h)) fun _ _ h => .pure h

theorem runs_blockEntries (h : c.Of t) :
    Runs t.Stops (fun _ c' => c'.Of t) c (blockEntries (fuel + 1)) := by
  rw [blockEntries]
  refine .bind (runs_accept h _) fun used c h => .ite (fun _ => ?_) fun _ => ?_
  · refine .bind (runs_orEmpty h _ (ih.node h _ _)) fun key c h => ?_
    refine .bind (ih.blockValue h) fun value c h => ?_
    exact .bind (ih.blockEntries h) fun _ _ h => .pure h
  · exact .bind (runs_expect h _) fun _ _ h => .pure h

theorem runs_blockValue (h : c.Of t) :
    Runs t.Stops (fun _ c' => c'.Of t) c (blockValue (fuel + 1)) := by
  rw [blockValue]
  refine .bind (runs_accept h _) fun used c h => .ite (fun _ => ?_) fun _ => runs_empty h
  exact runs_orEmpty h _ (ih.node h _ _)

/-- An entry among the items opens a mapping of its own. -/
theorem runs_flowItems (h : c.Of t) (first : Bool) :
    Runs t.Stops (fun _ c' => c'.Of t) c (flowItems first (fuel + 1)) := by
  rw [flowItems]
  refine .bind (runs_accept h _) fun _ c h => .ite (fun _ => .pure h) fun _ => ?_
  refine .bind (runs_separator h first) fun _ c h => ?_
  refine .bind (runs_accept_opening h rfl) fun used c h => .ite (fun hused => ?_) fun _ => ?_
  · have hmap : Tag.map = Tag.value → t.Overrides := fun h => absurd h (by decide)
    refine .bind (runs_openCollection (h.2 hused) _ hmap) fun place c h => ?_
    refine .bind (ih.flowPart h _) fun key c h => .bind (ih.flowValue h _) fun value c h => ?_
    refine .bind (runs_closeCollection h (Shape.mapping_ne_scalar _) place) fun _ c h => ?_
    exact .bind (ih.flowItems h false) fun _ _ h => .pure h
  · refine .bind (runs_accept h.1 _) fun _ c h => .ite (fun _ => .pure h) fun _ => ?_
    refine .bind (ih.node h _ _) fun item c h => ?_
    exact .bind (ih.flowItems h false) fun _ _ h => .pure h

theorem runs_flowEntries (h : c.Of t) (first : Bool) :
    Runs t.Stops (fun _ c' => c'.Of t) c (flowEntries first (fuel + 1)) := by
  rw [flowEntries]
  refine .bind (runs_accept h _) fun _ c h => .ite (fun _ => .pure h) fun _ => ?_
  refine .bind (runs_separator h first) fun _ c h => ?_
  refine .bind (runs_accept h _) fun used c h => .ite (fun _ => ?_) fun _ => ?_
  · refine .bind (ih.flowPart h _) fun key c h => .bind (ih.flowValue h _) fun value c h => ?_
    exact .bind (ih.flowEntries h false) fun _ _ h => .pure h
  · refine .bind (runs_accept h _) fun _ c h => .ite (fun _ => .pure h) fun _ => ?_
    refine .bind (ih.node h _ _) fun key c h => .bind (runs_empty h) fun value c h => ?_
    exact .bind (ih.flowEntries h false) fun _ _ h => .pure h

theorem runs_flowPart (h : c.Of t) (before : List Token) :
    Runs t.Stops (fun _ c' => c'.Of t) c (flowPart before (fuel + 1)) := by
  rw [flowPart]
  exact runs_orEmpty h before (ih.node h _ _)

theorem runs_flowValue (h : c.Of t) (before : List Token) :
    Runs t.Stops (fun _ c' => c'.Of t) c (flowValue before (fuel + 1)) := by
  rw [flowValue]
  refine .bind (runs_accept h _) fun used c h => .ite (fun _ => ?_) fun _ => runs_empty h
  exact ih.flowPart h before

omit ih

/-- The readers of the grammar stay in the stream and keep the account. -/
theorem keeps (t : Tokens) (fuel : Nat) : Keeps t fuel := by
  induction fuel with
  | zero => constructor <;> intros <;> exact runs_refuse _
  | succ fuel ih =>
    exact
      { node := runs_node ih
        blockItems := runs_blockItems ih
        indentlessItems := runs_indentlessItems ih
        blockEntries := runs_blockEntries ih
        blockValue := runs_blockValue ih
        flowItems := runs_flowItems ih
        flowEntries := runs_flowEntries ih
        flowPart := runs_flowPart ih
        flowValue := runs_flowValue ih }

/-! ## Documents -/

/-- Directives open nothing. -/
theorem runs_directives (h : c.Of t) (versioned : Bool) (handles : Table String String)
    (fuel : Nat) :
    Runs t.Stops (fun _ c' => c'.Of t) c (directives versioned handles fuel) := by
  induction fuel generalizing c versioned handles with
  | zero => exact runs_refuse _
  | succ fuel ih =>
    rw [directives]
    refine .bind (runs_peek h.toIn) ?_
    rintro next _ ⟨rfl, -⟩
    split
    · refine .bind (runs_drop h) fun _ c h => ?_
      split
      · exact .ite (fun _ => runs_refuse _) fun _ => ih h _ _
      · exact .ite (fun _ => runs_refuse _) fun _ => ih h _ _
      · exact ih h _ _
    · exact .pure h

theorem runs_skipEnds (h : c.Of t) (fuel : Nat) :
    Runs t.Stops (fun _ c' => c'.Of t) c (skipEnds fuel) := by
  induction fuel generalizing c with
  | zero => exact .pure h
  | succ fuel ih =>
    rw [skipEnds]
    exact .bind (runs_accept h _) fun _ c h => .ite (fun _ => ih h) fun _ => .pure h

/-- A new document has no open collections. -/
theorem runs_renew (h : c.Of t) (handles : Table String String) :
    Runs t.Stops (fun _ c' => c'.Of t) c (renew handles) := by
  refine .modify ⟨⟨h.suffix, h.fault, nofun⟩, ?_⟩
  have := h.opened
  simp only
  omega

theorem runs_root (h : c.Of t) (fuel : Nat) :
    Runs t.Stops (fun _ c' => c'.Of t) c (root fuel) := by
  refine .bind (runs_peek h.toIn) ?_
  rintro next _ ⟨rfl, -⟩
  exact .ite (fun _ => runs_empty h) fun _ => (keeps t fuel).node h _ _

theorem runs_budget (h : c.Of t) : Runs t.Stops (fun _ c' => c'.Of t) c budget :=
  .get_bind (.pure h)

theorem runs_bareDocument (h : c.Of t) :
    Runs t.Stops (fun _ c' => c'.Of t) c bareDocument := by
  refine .bind (runs_renew h _) fun _ c h => .bind (runs_budget h) fun fuel c h => ?_
  refine .bind ((keeps t fuel).node h _ _) fun root c h => ?_
  exact .bind (runs_accept h _) fun _ _ h => .pure h

/-- A document that starts with a marker. -/
theorem runs_markedDocument? (h : c.Of t) :
    Runs t.Stops (fun _ c' => c'.Of t) c markedDocument? := by
  refine .bind (runs_budget h) fun fuel c h => .bind (runs_skipEnds h fuel) fun _ c h => ?_
  refine .bind (runs_peek h.toIn) ?_
  rintro next _ ⟨rfl, -⟩
  refine .ite (fun _ => .pure h) fun _ => .bind (runs_directives h _ _ _) fun handles c h => ?_
  refine .bind (runs_renew h _) fun _ c h => .bind (runs_expect h _) fun _ c h => ?_
  refine .bind (runs_root h fuel) fun root c h => ?_
  exact .bind (runs_accept h _) fun _ _ h => .pure h

/-- The first document. -/
theorem runs_firstDocument? (h : c.Of t) :
    Runs t.Stops (fun _ c' => c'.Of t) c firstDocument? := by
  refine .bind (runs_peek h.toIn) ?_
  rintro next _ ⟨rfl, -⟩
  split
  · exact runs_markedDocument? h
  · exact runs_markedDocument? h
  · exact runs_markedDocument? h
  · exact .bind (runs_bareDocument h) fun _ _ h => .pure h

end Compose

end JenkinsAdmission.Yaml
