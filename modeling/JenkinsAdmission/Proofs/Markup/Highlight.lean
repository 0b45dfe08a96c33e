import JenkinsAdmission.Proofs.Markup

/-!
# Highlighted texts

A highlighted text stands between two tags of our own. Can it get out of them?

* `Markup.LiveAt` says that a tag is live at a place of a text, without a scan, and
  `Markup.liveAt_iff_pieces` says that these are the tags that the scan finds.
* A tag cuts a text in two, and nothing is live across it (`Markup.liveAt_append_tag_iff`).
* `Markup.Encloses` says that the live tags of a highlighted text are the opening tag at its start
  and the closing tag at its end.
* `Markup.encloses_iff` says that this is so unless the text ends in an odd number of backslashes,
  and in more than one. Escaping takes care of a single backslash and of no longer run, so these
  backslashes disarm the closing tag. No text brings in a tag of its own.
-/

namespace JenkinsAdmission.Markup

variable {t s before tag after rest : Text} {c : CodePoint} {n k : Nat} {ps qs : List Piece}

/-! ## Backslashes at the end -/

/-- Only what stands behind the last other character counts. -/
theorem slashesAtEnd_append_cons (hc : c ≠ slash) (s t : Text) :
    slashesAtEnd (s ++ c :: t) = slashesAtEnd t := by
  have hreverse : (s ++ c :: t).reverse = t.reverse ++ c :: s.reverse := by simp
  have hstop : (c :: s.reverse).takeWhile (· = slash) = [] :=
    List.takeWhile_cons_of_neg (by simpa using hc)
  rw [slashesAtEnd, slashesAtEnd, hreverse, List.takeWhile_append, hstop]
  split
  · rename_i hall
    rw [List.append_nil, hall]
  · rfl

/-- Backslashes are counted from the end. -/
theorem slashesAtEnd_append_slashes (s : Text) (n : Nat) :
    slashesAtEnd (s ++ List.replicate n slash) = slashesAtEnd s + n := by
  have hslashes : ∀ c ∈ List.replicate n slash, decide (c = slash) = true := by
    intro c hc
    exact decide_eq_true (List.eq_of_mem_replicate hc)
  rw [slashesAtEnd, List.reverse_append, List.reverse_replicate,
    List.takeWhile_append_of_pos hslashes, List.length_append, List.length_replicate, Nat.add_comm,
    slashesAtEnd]

theorem slashesAtEnd_slashes (n : Nat) : slashesAtEnd (List.replicate n slash) = n :=
  (slashesAtEnd_append_slashes [] n).trans (Nat.zero_add n)

/-! ## Live tags by their places -/

/-- A tag: a bracket, a code point that opens a tag, and no other bracket before the closing one. -/
def IsTag (tag : Text) : Prop :=
  ∃ b inside, tag = .scalar '[' :: b :: (inside ++ [.scalar ']']) ∧ opensTag b = true ∧
    ∀ c ∈ inside, c ≠ .scalar ']' ∧ c ≠ .scalar '['

/-- A tag that the console acts on, between what stands before and after it: it has an even number
of backslashes in front of it. -/
structure LiveAt (t before tag after : Text) : Prop where
  /-- the text around the tag -/
  eq_append : t = before ++ (tag ++ after)
  /-- it is a tag -/
  isTag : IsTag tag
  /-- no backslash makes it literal -/
  even : slashesAtEnd before % 2 = 0

/-- The reader of tags finds the tags that the reference knows. -/
theorem tag?_eq_some_iff_isTag : tag? t = some (tag, after) ↔ t = tag ++ after ∧ IsTag tag := by
  rw [tag?_eq_some_iff]
  constructor
  · rintro ⟨b, rest, body, rfl, hopens, hbody, rfl⟩
    obtain ⟨inside, rfl, rfl, hinside⟩ := tagBody?_eq_some_iff.mp hbody
    exact ⟨by simp, b, inside, rfl, hopens, hinside⟩
  · rintro ⟨rfl, b, inside, rfl, hopens, hinside⟩
    refine ⟨b, _, _, rfl, hopens, tagBody?_eq_some_iff.mpr ⟨inside, ?_, rfl, hinside⟩, rfl⟩
    simp

theorem IsTag.tag?_append (h : IsTag tag) (s : Text) : tag? (tag ++ s) = some (tag, s) :=
  tag?_eq_some_iff_isTag.mpr ⟨rfl, h⟩

/-- A tag starts with a bracket, so nothing before it can be closed by it. -/
theorem IsTag.tagBody?_append (h : IsTag tag) (s : Text) : tagBody? (tag ++ s) = none := by
  obtain ⟨b, inside, rfl, -⟩ := h
  exact tagBody?_cons_eq_none_iff.mpr ⟨by decide, .inl rfl⟩

/-- A tag ends with a bracket, so the backslashes before it are not at the end. -/
theorem IsTag.slashesAtEnd_append (h : IsTag tag) (s t : Text) :
    slashesAtEnd (s ++ (tag ++ t)) = slashesAtEnd t := by
  obtain ⟨b, inside, rfl, -⟩ := h
  have heq : s ++ (.scalar '[' :: b :: (inside ++ [.scalar ']']) ++ t) =
      (s ++ .scalar '[' :: b :: inside) ++ .scalar ']' :: t := by simp
  rw [heq, slashesAtEnd_append_cons (by decide)]

/-! ## The scan -/

theorem flatMap_source_slashes (n : Nat) :
    (List.replicate n (Piece.plain slash)).flatMap Piece.source = List.replicate n slash := by
  have h := source_piecesFrom n []
  rwa [piecesFrom, List.append_nil] at h

/-- Backslashes at the end of the pieces stand at the end of the text. -/
theorem eq_of_pieces_eq_append_slashes (h : pieces t = ps ++ List.replicate n (.plain slash)) :
    t = ps.flatMap Piece.source ++ List.replicate n slash := by
  rw [← flatMap_source_slashes, ← List.flatMap_append, ← h, source_pieces]

/-- A tag takes the backslashes that stand at the end of what comes before it. -/
theorem exists_piecesFrom_append_tag (htag : IsTag tag) (rest : Text) (n : Nat) (s : Text) :
    ∃ ps k, k = slashesAtEnd (List.replicate n slash ++ s) ∧
      piecesFrom n s = ps ++ List.replicate k (.plain slash) ∧
      piecesFrom n (s ++ (tag ++ rest)) = ps ++ .tag k tag :: pieces rest := by
  -- along the scan of `s`, with the `n` backslashes that are already read
  fun_induction piecesFrom n s with
  | case1 n =>
    refine ⟨[], n, ?_, rfl, piecesFrom_tag (htag.tag?_append rest) n⟩
    rw [List.append_nil, slashesAtEnd_slashes]
  | case2 n s ih =>
    obtain ⟨ps, k, hk, hs, hall⟩ := ih
    refine ⟨ps, k, ?_, hs, by rw [List.cons_append, piecesFrom_slash, hall]⟩
    rw [hk, List.replicate_succ', List.append_assoc, List.singleton_append]
  | case3 n c s hc found after h ih =>
    obtain ⟨ps, k, hk, hs, hall⟩ := ih
    obtain ⟨heq, hfound⟩ := tag?_eq_some_iff_isTag.mp h
    refine ⟨.tag n found :: ps, k, ?_, by rw [hs, List.cons_append], ?_⟩
    · rw [hk, heq, hfound.slashesAtEnd_append, List.replicate_zero, List.nil_append]
    · rw [heq, List.append_assoc, piecesFrom_tag (hfound.tag?_append _), hall, List.cons_append]
  | case4 n c s hc h ih =>
    obtain ⟨ps, k, hk, hs, hall⟩ := ih
    -- a bracket that `s` leaves open stays open, because the tag opens another one
    have hnone := tag?_cons_append_eq_none h (htag.tagBody?_append rest)
    refine ⟨List.replicate n (.plain slash) ++ .plain c :: ps, k, ?_, ?_, ?_⟩
    · rw [hk, slashesAtEnd_append_cons hc, List.replicate_zero, List.nil_append]
    · rw [hs, List.append_assoc, List.cons_append]
    · rw [List.cons_append, piecesFrom_plain hc hnone, hall, List.append_assoc, List.cons_append]

/-- A scan comes to the tag with the backslashes in front of it in its count. -/
theorem exists_pieces_append_tag (htag : IsTag tag) (s rest : Text) :
    ∃ ps, pieces s = ps ++ List.replicate (slashesAtEnd s) (.plain slash) ∧
      pieces (s ++ (tag ++ rest)) = ps ++ .tag (slashesAtEnd s) tag :: pieces rest := by
  obtain ⟨ps, k, rfl, hs, hall⟩ := exists_piecesFrom_append_tag htag rest 0 s
  exact ⟨ps, hs, hall⟩

/-- There is no tag among backslashes. -/
theorem exists_of_slashes_append {rs : List Piece}
    (h : List.replicate n (.plain slash) ++ rs = ps ++ .tag k tag :: qs) :
    ∃ ps', ps = List.replicate n (.plain slash) ++ ps' ∧ rs = ps' ++ .tag k tag :: qs := by
  induction n generalizing ps with
  | zero => exact ⟨ps, rfl, h⟩
  | succ n ih =>
    rw [List.replicate_succ, List.cons_append] at h
    cases ps with
    | nil => cases h
    | cons p ps =>
      obtain ⟨rfl, hrest⟩ := List.cons.inj h
      obtain ⟨ps', rfl, hrs⟩ := ih hrest
      exact ⟨ps', rfl, hrs⟩

/-- The scan finds tags only, and leaves no backslash in front of them. -/
theorem isTag_of_piecesFrom_eq (h : piecesFrom n t = ps ++ .tag k tag :: qs) :
    IsTag tag ∧ slashesAtEnd (ps.flatMap Piece.source) = 0 := by
  fun_induction piecesFrom n t generalizing ps with
  | case1 n =>
    rw [← List.append_nil (List.replicate n _)] at h
    obtain ⟨ps', -, hnil⟩ := exists_of_slashes_append h
    cases ps' <;> cases hnil
  | case2 n rest ih => exact ih h
  -- the first piece is the tag, or it is passed over
  | case3 n c rest hc found after hfound ih =>
    have htag := (tag?_eq_some_iff_isTag.mp hfound).2
    rcases List.cons_eq_append_iff.mp h with ⟨rfl, hcons⟩ | ⟨ps', rfl, hrest⟩
    · obtain ⟨heq, -⟩ := List.cons.inj hcons
      cases heq
      exact ⟨htag, rfl⟩
    · obtain ⟨hisTag, hslashes⟩ := ih hrest
      refine ⟨hisTag, ?_⟩
      rw [List.flatMap_cons, Piece.source, List.append_assoc, htag.slashesAtEnd_append, hslashes]
  -- backslashes and a plain character are passed over
  | case4 n c rest hc hnone ih =>
    obtain ⟨ps', rfl, hcons⟩ := exists_of_slashes_append h
    rcases List.cons_eq_append_iff.mp hcons with ⟨-, hcons⟩ | ⟨ps'', rfl, hrest⟩
    · cases hcons
    · obtain ⟨hisTag, hslashes⟩ := ih hrest
      refine ⟨hisTag, ?_⟩
      rw [List.flatMap_append, List.flatMap_cons, Piece.source, List.singleton_append,
        slashesAtEnd_append_cons hc, hslashes]

/-- What is live is a matter of places: the scan finds the tags that are live at some place, each
with all the backslashes in front of it. -/
theorem liveAt_iff_pieces :
    LiveAt t before tag after ↔ ∃ ps k qs, pieces t = ps ++ .tag k tag :: qs ∧ k % 2 = 0 ∧
      before = ps.flatMap Piece.source ++ List.replicate k slash ∧
      after = qs.flatMap Piece.source := by
  constructor
  · rintro ⟨rfl, htag, heven⟩
    obtain ⟨ps, hbefore, hall⟩ := exists_pieces_append_tag htag before after
    exact ⟨ps, _, pieces after, hall, heven, eq_of_pieces_eq_append_slashes hbefore,
      (source_pieces after).symm⟩
  · rintro ⟨ps, k, qs, h, heven, rfl, rfl⟩
    obtain ⟨htag, hslashes⟩ := isTag_of_piecesFrom_eq h
    refine ⟨?_, htag, ?_⟩
    · rw [← source_pieces t, h, List.flatMap_append, List.flatMap_cons, Piece.source]
      simp only [List.append_assoc]
    · rw [slashesAtEnd_append_slashes, hslashes, Nat.zero_add, heven]

/-- The live tags are those at the places that the reference calls live. -/
theorem mem_liveTags_iff : tag ∈ liveTags t ↔ ∃ before after, LiveAt t before tag after := by
  rw [liveTags_eq, live, List.mem_filterMap]
  constructor
  · rintro ⟨p, hmem, hlive⟩
    obtain ⟨ps, qs, hpieces⟩ := List.append_of_mem hmem
    cases p with
    | plain c => cases hlive
    | tag k found =>
      obtain ⟨heven, htag⟩ := Option.ite_none_right_eq_some.mp hlive
      obtain rfl := Option.some.inj htag
      exact ⟨_, _, liveAt_iff_pieces.mpr
        ⟨ps, k, qs, hpieces, Piece.isLive_tag_iff.mp heven, rfl, rfl⟩⟩
  · rintro ⟨before, after, h⟩
    obtain ⟨ps, k, qs, hpieces, heven, -, -⟩ := liveAt_iff_pieces.mp h
    exact ⟨.tag k tag, by simp [hpieces], if_pos (Piece.isLive_tag_iff.mpr heven)⟩

theorem not_liveAt_of_liveTags_eq_nil (h : liveTags t = []) : ¬LiveAt t before tag after := by
  intro hlive
  have hmem : tag ∈ liveTags t := mem_liveTags_iff.mpr ⟨before, after, hlive⟩
  rw [h] at hmem
  cases hmem

/-! ## A tag cuts a text in two -/

/-- The live tags before a tag, the tag itself unless it is made literal, and those after it. -/
theorem liveTags_append_tag (htag : IsTag tag) (s rest : Text) :
    liveTags (s ++ (tag ++ rest)) =
      liveTags s ++ ((if slashesAtEnd s % 2 = 0 then [tag] else []) ++ liveTags rest) := by
  obtain ⟨ps, hs, hall⟩ := exists_pieces_append_tag htag s rest
  rw [liveTags_eq, hall, liveTags_eq s, hs, live_append, live_append, live_slashes,
    List.append_nil, live_cons_tag, ← liveTags_eq]

/-- A live tag stays live when more text follows. -/
theorem LiveAt.append_right (h : LiveAt s before tag after) (t : Text) :
    LiveAt (s ++ t) before tag (after ++ t) :=
  ⟨by rw [h.eq_append, List.append_assoc, List.append_assoc], h.isTag, h.even⟩

/-- Two elements of a list are the same one, or one of them comes before the other. -/
theorem append_cons_cases {α : Type} {a b : α} {l l' r r' : List α}
    (h : l ++ a :: r = l' ++ b :: r') :
    (∃ m, l = l' ++ b :: m ∧ r' = m ++ a :: r) ∨ (l = l' ∧ a = b ∧ r = r') ∨
      ∃ m, l' = l ++ a :: m ∧ r = m ++ b :: r' := by
  rcases List.append_eq_append_iff.mp h with ⟨m, rfl, hcut⟩ | ⟨m, rfl, hcut⟩
  · rcases m with _ | ⟨d, m⟩
    · obtain ⟨rfl, rfl⟩ := List.cons.inj hcut
      exact .inr (.inl ⟨(List.append_nil l).symm, rfl, rfl⟩)
    · obtain ⟨rfl, rfl⟩ := List.cons.inj hcut
      exact .inr (.inr ⟨m, rfl, rfl⟩)
  · rcases m with _ | ⟨d, m⟩
    · obtain ⟨rfl, rfl⟩ := List.cons.inj hcut
      exact .inr (.inl ⟨List.append_nil l', rfl, rfl⟩)
    · obtain ⟨rfl, rfl⟩ := List.cons.inj hcut
      exact .inl ⟨m, rfl, rfl⟩

/-- What is live in a text with a tag in it, is live before the tag, or is the tag, or is live after
it. -/
theorem liveAt_append_tag_iff {mark : Text} (hmark : IsTag mark) :
    LiveAt (s ++ (mark ++ rest)) before tag after ↔
      (∃ between, LiveAt s before tag between ∧ after = between ++ (mark ++ rest)) ∨
      (before = s ∧ tag = mark ∧ after = rest ∧ slashesAtEnd s % 2 = 0) ∨
      ∃ between, LiveAt rest between tag after ∧ before = s ++ (mark ++ between) := by
  constructor
  · intro h
    obtain ⟨ps, hs, hall⟩ := exists_pieces_append_tag hmark s rest
    obtain ⟨ps', k, qs, hcut, heven, rfl, rfl⟩ := liveAt_iff_pieces.mp h
    have hsource := eq_of_pieces_eq_append_slashes hs
    rcases append_cons_cases (hcut.symm.trans hall) with
      ⟨m, rfl, hrest⟩ | ⟨rfl, hsame, rfl⟩ | ⟨m, rfl, rfl⟩
    -- the scan finds the tag after the mark, at it, or before it
    · refine .inr (.inr ⟨m.flatMap Piece.source ++ List.replicate k slash, ?_, ?_⟩)
      · exact liveAt_iff_pieces.mpr ⟨m, k, qs, hrest, heven, rfl, rfl⟩
      · have hmarked : (ps ++ .tag (slashesAtEnd s) mark :: m).flatMap Piece.source =
            (ps.flatMap Piece.source ++ List.replicate (slashesAtEnd s) slash) ++
              (mark ++ m.flatMap Piece.source) := by
          simp only [List.flatMap_append, List.flatMap_cons, Piece.source, List.append_assoc]
        rw [hmarked, ← hsource, List.append_assoc, List.append_assoc]
    · obtain ⟨rfl, rfl⟩ := Piece.tag.inj hsame
      exact .inr (.inl ⟨hsource.symm, rfl, source_pieces rest, heven⟩)
    · have hlive : LiveAt s (ps'.flatMap Piece.source ++ List.replicate k slash) tag
          ((m ++ List.replicate (slashesAtEnd s) (Piece.plain slash)).flatMap Piece.source) := by
        refine liveAt_iff_pieces.mpr ⟨ps', k, _, ?_, heven, rfl, rfl⟩
        rw [hs, List.append_assoc, List.cons_append]
      refine .inl ⟨_, hlive, ?_⟩
      simp only [List.flatMap_append, List.flatMap_cons, Piece.source, flatMap_source_slashes,
        source_pieces, List.append_assoc]
  · rintro (⟨between, h, rfl⟩ | ⟨rfl, rfl, rfl, heven⟩ | ⟨between, h, rfl⟩)
    · exact h.append_right (mark ++ rest)
    · exact ⟨rfl, hmark, heven⟩
    · refine ⟨?_, h.isTag, ?_⟩
      · rw [h.eq_append, List.append_assoc, List.append_assoc]
      · rw [hmark.slashesAtEnd_append, h.even]

/-! ## Escaping and the end of a text -/

/-- Escaping makes tags literal and keeps what stands behind them. -/
theorem slashesAtEnd_escapedFrom (n : Nat) (t : Text) :
    slashesAtEnd (escapedFrom n t) = slashesAtEnd (List.replicate n slash ++ t) := by
  fun_induction piecesFrom n t with
  | case1 n => rw [escapedFrom_nil, List.append_nil]
  | case2 n rest ih =>
    rw [escapedFrom_slash, ih, List.replicate_succ', List.append_assoc, List.singleton_append]
  | case3 n c rest hc tag after h ih =>
    obtain ⟨heq, htag⟩ := tag?_eq_some_iff_isTag.mp h
    rw [escapedFrom_tag h, heq, htag.slashesAtEnd_append, htag.slashesAtEnd_append, ih,
      List.replicate_zero, List.nil_append]
  | case4 n c rest hc h ih =>
    rw [escapedFrom_plain hc h, slashesAtEnd_append_cons hc, slashesAtEnd_append_cons hc, ih,
      List.replicate_zero, List.nil_append]

/-- A single backslash at the end of a text is doubled, any other number of them is kept. -/
theorem slashesAtEnd_escape (t : Text) :
    slashesAtEnd (escape t) = if slashesAtEnd t = 1 then 2 else slashesAtEnd t := by
  have hescaped : slashesAtEnd (escapedFrom 0 t) = slashesAtEnd t := slashesAtEnd_escapedFrom 0 t
  have heq : escape t = closeSlash (escapedFrom 0 t) := rfl
  rw [heq, closeSlash_eq, hescaped]
  split
  · rename_i hone
    have hconcat := slashesAtEnd_append_slashes (escapedFrom 0 t) 1
    rw [List.replicate_one] at hconcat
    rw [hconcat, hescaped, hone]
  · exact hescaped

/-- The backslashes at the end of a text make what is written after them literal, although the text
is escaped. -/
def DisarmsClosing (t : Text) : Prop :=
  1 < slashesAtEnd t ∧ slashesAtEnd t % 2 = 1

instance (t : Text) : Decidable (DisarmsClosing t) :=
  inferInstanceAs (Decidable (1 < slashesAtEnd t ∧ slashesAtEnd t % 2 = 1))

/-- Escaping leaves an even number of backslashes at the end, but for the texts that it misses. -/
theorem slashesAtEnd_escape_even_iff (t : Text) :
    slashesAtEnd (escape t) % 2 = 0 ↔ ¬DisarmsClosing t := by
  rw [slashesAtEnd_escape, DisarmsClosing]
  split <;> omega

/-! ## Highlighting -/

theorem isTag_opening : IsTag "[highlight]" :=
  ⟨.scalar 'h', ("ighlight" : Text), rfl, rfl, by decide⟩

theorem isTag_closing : IsTag "[/highlight]" :=
  ⟨.scalar '/', ("highlight" : Text), rfl, rfl, by decide⟩

theorem highlight_append (t s : Text) :
    highlight t ++ s =
      ("[highlight]" : Text) ++ (escape t ++ (("[/highlight]" : Text) ++ s)) := by
  simp only [highlight, List.append_assoc]

/-- The live tags of a highlighted text and of what follows it. -/
theorem liveTags_highlight_append (t s : Text) :
    liveTags (highlight t ++ s) =
      ("[highlight]" : Text) ::
        ((if DisarmsClosing t then [] else [("[/highlight]" : Text)]) ++ liveTags s) := by
  rw [highlight_append, liveTags_tag_append (by decide), liveTags_append_tag isTag_closing,
    liveTags_escape, List.nil_append]
  simp only [slashesAtEnd_escape_even_iff, ite_not]

/-- The closing tag is live unless the text disarms it. -/
theorem liveTags_highlight (t : Text) :
    liveTags (highlight t) =
      ("[highlight]" : Text) :: if DisarmsClosing t then [] else [("[/highlight]" : Text)] := by
  have h := liveTags_highlight_append t []
  rwa [List.append_nil, liveTags_nil, List.append_nil] at h

/-- In a highlighted text the opening tag is live, and the closing one unless it is disarmed. -/
theorem liveAt_highlight_iff :
    LiveAt (highlight t) before tag after ↔
      (before = [] ∧ tag = "[highlight]" ∧ after = escape t ++ "[/highlight]") ∨
      (before = "[highlight]" ++ escape t ∧ tag = "[/highlight]" ∧ after = []) ∧
        ¬DisarmsClosing t := by
  have heq := highlight_append t []
  rw [List.append_nil] at heq
  constructor
  · intro h
    -- the opening tag cuts the text in two, with nothing in front
    rw [heq, ← List.nil_append (_ ++ _)] at h
    rcases (liveAt_append_tag_iff isTag_opening).mp h with
      ⟨between, hfirst, -⟩ | ⟨rfl, rfl, rfl, -⟩ | ⟨between, hrest, rfl⟩
    · exact absurd hfirst (not_liveAt_of_liveTags_eq_nil liveTags_nil)
    · exact .inl ⟨rfl, rfl, by rw [List.append_nil]⟩
    · -- so does the closing tag, with nothing behind it
      rcases (liveAt_append_tag_iff isTag_closing).mp hrest with
        ⟨between, hinside, -⟩ | ⟨rfl, rfl, rfl, heven⟩ | ⟨between, hlast, -⟩
      · exact absurd hinside (not_liveAt_of_liveTags_eq_nil (liveTags_escape t))
      · exact .inr ⟨⟨rfl, rfl, rfl⟩, (slashesAtEnd_escape_even_iff t).mp heven⟩
      · exact absurd hlast (not_liveAt_of_liveTags_eq_nil liveTags_nil)
  · rintro (⟨rfl, rfl, rfl⟩ | ⟨⟨rfl, rfl, rfl⟩, hclosing⟩)
    · exact ⟨by rw [heq, List.append_nil, List.nil_append], isTag_opening, rfl⟩
    · refine ⟨by rw [heq, List.append_assoc], isTag_closing, ?_⟩
      have hslashes := isTag_opening.slashesAtEnd_append [] (escape t)
      rw [List.nil_append] at hslashes
      rwa [hslashes, slashesAtEnd_escape_even_iff]

/-- A highlighted text stays between its tags. -/
structure Encloses (t : Text) : Prop where
  /-- the scan finds two live tags -/
  liveTags_eq : liveTags (highlight t) = [("[highlight]" : Text), "[/highlight]"]
  /-- one of them is at the start, the other one at the end -/
  liveAt_iff : ∀ before tag after, LiveAt (highlight t) before tag after ↔
    (before = [] ∧ tag = "[highlight]" ∧ after = escape t ++ "[/highlight]") ∨
    (before = "[highlight]" ++ escape t ∧ tag = "[/highlight]" ∧ after = [])

/-- The closing tag of a highlighted text has to be live. -/
theorem encloses_iff_not_disarmsClosing (t : Text) : Encloses t ↔ ¬DisarmsClosing t := by
  refine ⟨fun h hdisarms => ?_, fun hdisarms => ⟨?_, fun before tag after => ?_⟩⟩
  · have htags := h.liveTags_eq
    rw [liveTags_highlight, if_pos hdisarms] at htags
    cases htags
  · rw [liveTags_highlight, if_neg hdisarms]
  · rw [liveAt_highlight_iff, and_iff_left hdisarms]

/-- **A highlighted text stays between its tags, unless the backslashes at its end disarm the
closing one.** No text brings in a tag of its own: the opening tag is all that is live besides the
closing one. -/
theorem encloses_iff (t : Text) :
    (Encloses t ↔ ¬DisarmsClosing t) ∧
    ∀ before tag after, LiveAt (highlight t) before tag after ↔
      (before = [] ∧ tag = "[highlight]" ∧ after = escape t ++ "[/highlight]") ∨
      (before = "[highlight]" ++ escape t ∧ tag = "[/highlight]" ∧ after = []) ∧
        ¬DisarmsClosing t :=
  ⟨encloses_iff_not_disarmsClosing t, fun _ _ _ => liveAt_highlight_iff⟩

/-- Three backslashes are kept as they are, and make the closing tag behind them literal. -/
theorem not_encloses_threeSlashes :
    ¬Encloses "\\\\\\" ∧
    highlight "\\\\\\" = "[highlight]\\\\\\[/highlight]" ∧
    liveTags (highlight "\\\\\\") = [("[highlight]" : Text)] := by
  have htags : liveTags (highlight "\\\\\\") = [("[highlight]" : Text)] := by
    rw [liveTags_highlight, if_pos (by decide)]
  refine ⟨fun h => ?_, by decide +kernel, htags⟩
  rw [h.liveTags_eq] at htags
  cases htags

end JenkinsAdmission.Markup
