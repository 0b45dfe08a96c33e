import JenkinsAdmission.Console

/-!
# Live tags of texts put together

A console line is put together from texts of our own and texts of others. Which of its tags are
live?

* A tag needs its closing bracket, so a text without one changes nothing when it follows
  (`Markup.liveTags_append_of_noClose`).
* A plain text, without opening brackets and backslashes, changes nothing when it comes first
  (`Markup.liveTags_append_of_plain`).
* An escaped text has no live tag at all (`Markup.liveTags_escape`).
* A message has the two tags of its level, and those of its body (`Level.liveTags_line`).
-/

namespace JenkinsAdmission

namespace Markup

variable {t s body tag after rest : Text} {c : CodePoint} {n : Nat}

/-! ## Tags -/

/-- A tag has no body where a bracket opens before one closes, or where none closes. -/
theorem tagBody?_cons_eq_none_iff :
    tagBody? (c :: rest) = none ↔
      c ≠ .scalar ']' ∧ (c = .scalar '[' ∨ tagBody? rest = none) := by
  rw [tagBody?]
  split
  · simp [*]
  · split <;> simp [*]

/-- The rest of a tag goes up to the first closing bracket, and has no opening one. -/
theorem tagBody?_eq_some_iff :
    tagBody? t = some (body, after) ↔
      ∃ inside, t = inside ++ .scalar ']' :: after ∧ body = inside ++ [.scalar ']'] ∧
        ∀ c ∈ inside, c ≠ .scalar ']' ∧ c ≠ .scalar '[' := by
  constructor
  · intro h
    induction t generalizing body with
    | nil => cases h
    | cons c rest ih =>
      rw [tagBody?] at h
      split at h
      · -- the body ends here
        rename_i hclose
        obtain ⟨rfl, rfl⟩ := Prod.mk.inj (Option.some.inj h)
        exact ⟨[], by rw [hclose]; rfl, by rw [hclose]; rfl, List.forall_mem_nil _⟩
      · rename_i hclose
        split at h
        · cases h
        · -- neither bracket, so the body goes on
          rename_i hopen
          obtain ⟨⟨body', after'⟩, hbody, heq⟩ := Option.map_eq_some_iff.mp h
          obtain ⟨rfl, rfl⟩ := Prod.mk.inj heq
          obtain ⟨inside, rfl, rfl, hinside⟩ := ih hbody
          exact ⟨c :: inside, rfl, rfl, List.forall_mem_cons.mpr ⟨⟨hclose, hopen⟩, hinside⟩⟩
  · rintro ⟨inside, rfl, rfl, hinside⟩
    induction inside with
    | nil => rfl
    | cons c inside ih =>
      obtain ⟨⟨hclose, hopen⟩, hinside⟩ := List.forall_mem_cons.mp hinside
      rw [List.cons_append, tagBody?, if_neg hclose, if_neg hopen, ih hinside]
      rfl

/-- Without a closing bracket there is no body of a tag. -/
theorem tagBody?_eq_none_of_noClose (hs : .scalar ']' ∉ s) : tagBody? s = none := by
  induction s with
  | nil => rfl
  | cons c rest ih =>
    obtain ⟨hc, hrest⟩ := not_or.mp (mt List.mem_cons.mpr hs)
    exact tagBody?_cons_eq_none_iff.mpr ⟨Ne.symm hc, .inr (ih hrest)⟩

/-- What does not close a bracket, does not close one that is left open before it. -/
theorem tagBody?_append_eq_none (ht : tagBody? t = none) (hs : tagBody? s = none) :
    tagBody? (t ++ s) = none := by
  induction t with
  | nil => exact hs
  | cons c rest ih =>
    obtain ⟨hclose, hopen⟩ := tagBody?_cons_eq_none_iff.mp ht
    exact tagBody?_cons_eq_none_iff.mpr ⟨hclose, hopen.imp_right ih⟩

/-- A tag is a bracket, a letter or a sign that opens tags, and a body. -/
theorem tag?_eq_some_iff :
    tag? t = some (tag, after) ↔
      ∃ b rest body, t = .scalar '[' :: b :: rest ∧ opensTag b = true ∧
        tagBody? rest = some (body, after) ∧ tag = .scalar '[' :: b :: body := by
  constructor
  · intro h
    unfold tag? at h
    split at h
    · rename_i a b rest
      split at h
      · rename_i hopens
        obtain ⟨⟨body, after'⟩, hbody, heq⟩ := Option.map_eq_some_iff.mp h
        obtain ⟨rfl, rfl⟩ := Prod.mk.inj heq
        exact ⟨b, rest, body, by rw [hopens.1], hopens.2, hbody, by rw [hopens.1]⟩
      · cases h
    · cases h
  · rintro ⟨b, rest, body, rfl, hopens, hbody, rfl⟩
    rw [tag?, if_pos ⟨rfl, hopens⟩, hbody]
    rfl

/-- A tag starts with a bracket. -/
theorem exists_cons_of_tag? (h : tag? t = some (tag, after)) :
    ∃ rest, t = .scalar '[' :: rest := by
  obtain ⟨b, rest, body, rfl, -⟩ := tag?_eq_some_iff.mp h
  exact ⟨b :: rest, rfl⟩

/-- A tag is a tag whatever follows it. -/
theorem tag?_self_append (h : tag? t = some (tag, after)) (s : Text) :
    tag? (tag ++ s) = some (tag, s) := by
  obtain ⟨b, rest, body, -, hopens, hbody, rfl⟩ := tag?_eq_some_iff.mp h
  obtain ⟨inside, -, rfl, hinside⟩ := tagBody?_eq_some_iff.mp hbody
  refine tag?_eq_some_iff.mpr ⟨b, _, _, rfl, hopens, ?_, rfl⟩
  exact tagBody?_eq_some_iff.mpr ⟨inside, List.append_assoc .., rfl, hinside⟩

/-- What follows a tag does not change it. -/
theorem tag?_append (h : tag? t = some (tag, after)) (s : Text) :
    tag? (t ++ s) = some (tag, after ++ s) := by
  rw [append_of_tag? h, List.append_assoc]
  exact tag?_self_append h (after ++ s)

theorem ne_opening_of_opensTag (h : opensTag c = true) : c ≠ .scalar '[' := by
  rintro rfl
  exact absurd h (by decide)

/-- A bracket that starts no tag starts none when text without a close is appended. -/
theorem tag?_cons_append_eq_none (h : tag? (c :: rest) = none) (hs : tagBody? s = none) :
    tag? (c :: (rest ++ s)) = none := by
  rcases rest with _ | ⟨b, rest⟩
  · rcases s with _ | ⟨b, s⟩
    · exact h
    · rw [List.nil_append, tag?]
      split
      · rename_i hopens
        have hrest := (tagBody?_cons_eq_none_iff.mp hs).2
        exact Option.map_eq_none_iff.mpr (hrest.resolve_left (ne_opening_of_opensTag hopens.2))
      · rfl
  · rw [tag?] at h
    rw [List.cons_append, tag?]
    split at h
    · rename_i hopens
      rw [if_pos hopens]
      exact Option.map_eq_none_iff.mpr (tagBody?_append_eq_none (Option.map_eq_none_iff.mp h) hs)
    · rename_i hopens
      rw [if_neg hopens]

/-- Only a bracket starts a tag. -/
theorem tag?_cons_of_ne (hc : c ≠ .scalar '[') (rest : Text) : tag? (c :: rest) = none := by
  cases rest with
  | nil => rfl
  | cons b rest => rw [tag?, if_neg fun h => hc h.1]

/-! ## Pieces -/

/-- Backslashes are counted. -/
theorem piecesFrom_slash (n : Nat) (rest : Text) :
    piecesFrom n (slash :: rest) = piecesFrom (n + 1) rest := by
  rw [piecesFrom, if_pos rfl]

/-- A tag takes the backslashes before it along. -/
theorem piecesFrom_tag (h : tag? t = some (tag, after)) (n : Nat) :
    piecesFrom n t = .tag n tag :: piecesFrom 0 after := by
  obtain ⟨rest, rfl⟩ := exists_cons_of_tag? h
  rw [piecesFrom, if_neg (by decide)]
  split
  · rename_i tag' after' h'
    obtain ⟨rfl, rfl⟩ := Prod.mk.inj (Option.some.inj (h.symm.trans h'))
    rfl
  · rename_i h'
    rw [h] at h'
    cases h'

/-- Backslashes before anything else are plain. -/
theorem piecesFrom_plain (hc : c ≠ slash) (h : tag? (c :: rest) = none) (n : Nat) :
    piecesFrom n (c :: rest) =
      List.replicate n (.plain slash) ++ .plain c :: piecesFrom 0 rest := by
  rw [piecesFrom, if_neg hc]
  split
  · rename_i h'
    rw [h] at h'
    cases h'
  · rfl

theorem piecesFrom_replicate (n k : Nat) (t : Text) :
    piecesFrom n (List.replicate k slash ++ t) = piecesFrom (n + k) t := by
  induction k generalizing n with
  | zero => rfl
  | succ k ih =>
    rw [List.replicate_succ, List.cons_append, piecesFrom_slash, ih, Nat.add_right_comm,
      Nat.add_assoc]

/-! ## Live tags -/

/-- A tag is live after an even number of backslashes. -/
theorem Piece.isLive_tag_iff {n : Nat} {text : Text} :
    (Piece.tag n text).isLive = true ↔ n % 2 = 0 :=
  beq_iff_eq

/-- The live tags among pieces. -/
def live (pieces : List Piece) : List Text :=
  pieces.filterMap Piece.liveTag?

theorem liveTags_eq (t : Text) : liveTags t = live (pieces t) := rfl

@[simp] theorem live_append (ps qs : List Piece) : live (ps ++ qs) = live ps ++ live qs := by
  simp [live]

@[simp] theorem live_cons_plain (c : CodePoint) (ps : List Piece) :
    live (.plain c :: ps) = live ps := rfl

@[simp] theorem live_slashes (n : Nat) : live (List.replicate n (.plain slash)) = [] := by
  induction n with
  | zero => rfl
  | succ n ih => rw [List.replicate_succ, live_cons_plain, ih]

/-- A tag is live behind an even number of backslashes. -/
theorem live_cons_tag (tag : Text) (n : Nat) (ps : List Piece) :
    live (.tag n tag :: ps) = (if n % 2 = 0 then [tag] else []) ++ live ps := by
  by_cases h : n % 2 = 0 <;> simp [live, Piece.liveTag?, Piece.isLive, h]

@[simp] theorem liveTags_nil : liveTags [] = [] := by
  rw [liveTags_eq, pieces, piecesFrom]
  rfl

/-- A text without closing brackets has no tag. -/
theorem live_piecesFrom_of_noClose (n : Nat) (s : Text) (hs : .scalar ']' ∉ s) :
    live (piecesFrom n s) = [] := by
  fun_induction piecesFrom n s with
  | case1 n => exact live_slashes n
  | case2 n rest ih => exact ih fun hmem => hs (List.mem_cons_of_mem _ hmem)
  | case3 n c rest hc tag after h ih =>
    have hrest : .scalar ']' ∉ rest := fun hmem => hs (List.mem_cons_of_mem _ hmem)
    have hnone : tag? (c :: ([] ++ rest)) = none :=
      tag?_cons_append_eq_none rfl (tagBody?_eq_none_of_noClose hrest)
    rw [List.nil_append, h] at hnone
    cases hnone
  | case4 n c rest hc h ih =>
    rw [live_append, live_slashes, List.nil_append, live_cons_plain]
    exact ih fun hmem => hs (List.mem_cons_of_mem _ hmem)

/-- Text that closes no tag adds no live one. -/
theorem live_piecesFrom_append (hs : .scalar ']' ∉ s) (n : Nat) (t : Text) :
    live (piecesFrom n (t ++ s)) = live (piecesFrom n t) := by
  fun_induction piecesFrom n t with
  | case1 n => rw [List.nil_append, live_piecesFrom_of_noClose n s hs, live_slashes]
  | case2 n rest ih => rw [List.cons_append, piecesFrom_slash, ih]
  | case3 n c rest hc tag after h ih =>
    rw [piecesFrom_tag (tag?_append h s), live_cons_tag, live_cons_tag, ih]
  | case4 n c rest hc h ih =>
    have hnone := tag?_cons_append_eq_none h (tagBody?_eq_none_of_noClose hs)
    rw [List.cons_append, piecesFrom_plain hc hnone, live_append, live_append, live_cons_plain,
      live_cons_plain, ih]

/-- A text without closing brackets adds no tag to what stands before it. -/
theorem liveTags_append_of_noClose (t : Text) (hs : .scalar ']' ∉ s) :
    liveTags (t ++ s) = liveTags t :=
  live_piecesFrom_append hs 0 t

/-- Nothing that could begin a tag or make one literal. -/
def IsPlain (t : Text) : Prop :=
  ∀ c ∈ t, c ≠ .scalar '[' ∧ c ≠ slash

instance (t : Text) : Decidable (IsPlain t) :=
  inferInstanceAs (Decidable (∀ c ∈ t, c ≠ .scalar '[' ∧ c ≠ slash))

/-- A plain text takes no tag from what stands after it. -/
theorem liveTags_append_of_plain (hs : IsPlain s) (t : Text) : liveTags (s ++ t) = liveTags t := by
  induction s with
  | nil => rfl
  | cons c rest ih =>
    obtain ⟨⟨hopen, hslash⟩, hrest⟩ := List.forall_mem_cons.mp hs
    rw [List.cons_append, liveTags_eq, pieces, piecesFrom_plain hslash (tag?_cons_of_ne hopen _),
      List.replicate_zero, List.nil_append, live_cons_plain, ← pieces, ← liveTags_eq, ih hrest]

/-- A tag at the start is live. -/
theorem liveTags_tag_append (h : tag? tag = some (tag, [])) (t : Text) :
    liveTags (tag ++ t) = tag :: liveTags t := by
  rw [liveTags_eq, pieces, piecesFrom_tag (tag?_self_append h t), live_cons_tag]
  rfl

/-! ## Escaping -/

/-- The text of the pieces after `n` backslashes, with every tag made literal. -/
def escapedFrom (n : Nat) (t : Text) : Text :=
  (piecesFrom n t).flatMap Piece.escaped

theorem flatMap_escaped_slashes (n : Nat) :
    (List.replicate n (Piece.plain slash)).flatMap Piece.escaped = List.replicate n slash := by
  induction n with
  | zero => rfl
  | succ n ih => rw [List.replicate_succ, List.flatMap_cons, ih]; rfl

theorem escapedFrom_nil (n : Nat) : escapedFrom n [] = List.replicate n slash := by
  rw [escapedFrom, piecesFrom, flatMap_escaped_slashes]

theorem escapedFrom_slash (n : Nat) (rest : Text) :
    escapedFrom n (slash :: rest) = escapedFrom (n + 1) rest := by
  rw [escapedFrom, piecesFrom_slash, escapedFrom]

/-- A tag is escaped by one backslash more than twice those before it. -/
theorem escapedFrom_tag (h : tag? t = some (tag, after)) (n : Nat) :
    escapedFrom n t = List.replicate (2 * n + 1) slash ++ (tag ++ escapedFrom 0 after) := by
  rw [escapedFrom, piecesFrom_tag h, List.flatMap_cons, ← escapedFrom, Piece.escaped,
    List.append_assoc]

theorem escapedFrom_plain (hc : c ≠ slash) (h : tag? (c :: rest) = none) (n : Nat) :
    escapedFrom n (c :: rest) = List.replicate n slash ++ c :: escapedFrom 0 rest := by
  rw [escapedFrom, piecesFrom_plain hc h, List.flatMap_append, List.flatMap_cons,
    flatMap_escaped_slashes, ← escapedFrom]
  rfl

/-- A text with a backslash in front still has one in front when it is escaped. -/
theorem exists_escapedFrom_succ (n : Nat) (t : Text) :
    ∃ rest, escapedFrom (n + 1) t = slash :: rest := by
  fun_induction piecesFrom n t with
  | case1 n => exact ⟨_, escapedFrom_nil (n + 1)⟩
  | case2 n rest ih => exact escapedFrom_slash (n + 1) rest ▸ ih
  | case3 n c rest hc tag after h ih => exact ⟨_, escapedFrom_tag h (n + 1)⟩
  | case4 n c rest hc h ih => exact ⟨_, escapedFrom_plain hc h (n + 1)⟩

/-- An escaped text starts with a backslash or as the text does. -/
theorem exists_escapedFrom_cons (c : CodePoint) (rest : Text) :
    ∃ rest', escapedFrom 0 (c :: rest) = slash :: rest' ∨
      escapedFrom 0 (c :: rest) = c :: rest' := by
  by_cases hc : c = slash
  · rw [hc, escapedFrom_slash]
    obtain ⟨rest', h⟩ := exists_escapedFrom_succ 0 rest
    exact ⟨rest', .inl h⟩
  · cases h : tag? (c :: rest) with
    | none => exact ⟨_, .inr (escapedFrom_plain hc h 0)⟩
    | some found => exact ⟨_, .inl (escapedFrom_tag h 0)⟩

theorem tagBody?_slash : tagBody? (slash :: t) = none ↔ tagBody? t = none := by
  rw [tagBody?_cons_eq_none_iff, and_iff_right (by decide), or_iff_right (by decide)]

/-- Backslashes do not touch the body of a tag. -/
theorem tagBody?_slashes (n : Nat) :
    tagBody? (List.replicate n slash ++ t) = none ↔ tagBody? t = none := by
  induction n with
  | zero => rfl
  | succ n ih => rw [List.replicate_succ, List.cons_append, tagBody?_slash, ih]

/-- Escaping does not let a bracket be closed that was not. -/
theorem tagBody?_escapedFrom (n : Nat) (t : Text) (h : tagBody? t = none) :
    tagBody? (escapedFrom n t) = none := by
  fun_induction piecesFrom n t with
  | case1 n => rw [escapedFrom_nil, ← List.append_nil (List.replicate n slash), tagBody?_slashes, h]
  | case2 n rest ih => rw [escapedFrom_slash, ih (tagBody?_slash.mp h)]
  | case3 n c rest hc tag after htag ih =>
    -- the bracket of the tag ends the search
    obtain ⟨b, rest, body, -, -, -, rfl⟩ := tag?_eq_some_iff.mp htag
    rw [escapedFrom_tag htag, tagBody?_slashes]
    exact tagBody?_cons_eq_none_iff.mpr ⟨by decide, .inl rfl⟩
  | case4 n c rest hc htag ih =>
    obtain ⟨hclose, hopen⟩ := tagBody?_cons_eq_none_iff.mp h
    rw [escapedFrom_plain hc htag, tagBody?_slashes]
    exact tagBody?_cons_eq_none_iff.mpr ⟨hclose, hopen.imp_right ih⟩

/-- Escaping what follows a code point does not make a tag of it. -/
theorem tag?_cons_escapedFrom (h : tag? (c :: rest) = none) :
    tag? (c :: escapedFrom 0 rest) = none := by
  cases rest with
  | nil => rw [escapedFrom_nil]; rfl
  | cons b rest =>
    rw [tag?] at h
    split at h
    · rename_i hopens
      have hslash : b ≠ slash := by rintro rfl; exact absurd hopens.2 (by decide)
      have hplain := tag?_cons_of_ne (ne_opening_of_opensTag hopens.2) rest
      rw [escapedFrom_plain hslash hplain, List.replicate_zero,
        List.nil_append, tag?, if_pos hopens,
        tagBody?_escapedFrom 0 rest (Option.map_eq_none_iff.mp h)]
      rfl
    · rename_i hopens
      obtain ⟨rest', hrest | hrest⟩ := exists_escapedFrom_cons b rest
      · rw [hrest, tag?, if_neg fun h => absurd h.2 (by decide)]
      · rw [hrest, tag?, if_neg hopens]

/-- A piece with its tag made literal. -/
def Piece.literal : Piece → Piece
  | .plain c => .plain c
  | .tag n text => .tag (2 * n + 1) text

theorem map_literal_slashes (n : Nat) :
    (List.replicate n (Piece.plain slash)).map Piece.literal = List.replicate n (.plain slash) :=
  List.map_replicate

/-- Escaping makes the tags of a text literal, and otherwise keeps its pieces. -/
theorem pieces_escapedFrom (n : Nat) (t : Text) :
    pieces (escapedFrom n t) = (piecesFrom n t).map Piece.literal := by
  rw [pieces]
  fun_induction piecesFrom n t with
  | case1 n =>
    rw [escapedFrom_nil, map_literal_slashes, ← List.append_nil (List.replicate n slash),
      piecesFrom_replicate, Nat.zero_add, piecesFrom]
  | case2 n rest ih => rw [escapedFrom_slash, ih]
  | case3 n c rest hc tag after h ih =>
    rw [escapedFrom_tag h, piecesFrom_replicate, piecesFrom_tag (tag?_self_append h _),
      ih, Nat.zero_add, List.map_cons, Piece.literal]
  | case4 n c rest hc h ih =>
    rw [escapedFrom_plain hc h, piecesFrom_replicate, Nat.zero_add,
      piecesFrom_plain hc (tag?_cons_escapedFrom h), ih, List.map_append, List.map_cons,
      map_literal_slashes, Piece.literal]

/-- No piece that is taken literally is live. -/
theorem live_map_literal (ps : List Piece) : live (ps.map Piece.literal) = [] := by
  induction ps with
  | nil => rfl
  | cons p ps ih =>
    cases p with
    | plain c => exact ih
    | tag n text =>
      rw [List.map_cons, Piece.literal, live_cons_tag, if_neg (by omega), ih]
      rfl

/-- The number of backslashes at the end of a text. -/
def slashesAtEnd (t : Text) : Nat :=
  (t.reverse.takeWhile (· = slash)).length

/-- One backslash at the end is doubled, and nothing else is done there. -/
theorem closeSlash_eq (t : Text) :
    closeSlash t = if slashesAtEnd t = 1 then t ++ [slash] else t := by
  unfold closeSlash slashesAtEnd
  split
  · rename_i a b rest heq
    by_cases ha : a = slash <;> by_cases hb : b = slash <;> simp [heq, List.takeWhile, ha, hb]
  · rename_i a heq
    by_cases ha : a = slash <;> simp [heq, List.takeWhile, ha]
  · rename_i heq
    simp [heq]

/-- An escaped text has no live tag. -/
theorem liveTags_escape (t : Text) : liveTags (escape t) = [] := by
  have hnone : liveTags (escapedFrom 0 t) = [] := by
    rw [liveTags_eq, pieces_escapedFrom, live_map_literal]
  have heq : escape t = closeSlash (escapedFrom 0 t) := rfl
  rw [heq, closeSlash_eq]
  split
  · rw [liveTags_append_of_noClose _ (by decide), hnone]
  · exact hnone

end Markup

/-! ## Messages -/

/-- The tags of a message are those of its level, and those of its body. -/
theorem Level.liveTags_line (level : Level) (body : Text) :
    Markup.liveTags (level.line body) =
      ("[" ++ level.tag ++ "]" : Text) :: ("[/" ++ level.tag ++ "]" : Text) ::
        Markup.liveTags body := by
  have hopening : Markup.tag? ("[" ++ level.tag ++ "]" : Text) =
      some (("[" ++ level.tag ++ "]" : Text), []) := by cases level <;> decide
  have hclosing : Markup.tag? ("[/" ++ level.tag ++ "]" : Text) =
      some (("[/" ++ level.tag ++ "]" : Text), []) := by cases level <;> decide
  have hsymbol : Markup.IsPlain level.symbol := by cases level <;> decide
  have hline : level.line body = ("[" ++ level.tag ++ "]" : Text) ++
      (level.symbol ++ (("[/" ++ level.tag ++ "]" : Text) ++ ((" " : Text) ++ body))) := by
    simp only [Level.line, tagged, List.append_assoc]
  rw [hline, Markup.liveTags_tag_append hopening, Markup.liveTags_append_of_plain hsymbol,
    Markup.liveTags_tag_append hclosing, Markup.liveTags_append_of_plain (by decide)]

end JenkinsAdmission
