import JenkinsAdmission.Unicode.CodePoint

/-!
# Console markup

A console line is text with tags in square brackets. A **tag** is a bracket, one of `a`–`z`, `#`,
`/` or `@`, and anything but an opening bracket up to the first closing bracket. Backslashes in
front of a tag belong to it: an odd number of them makes the tag literal, an even number leaves it
**live**.

* `Markup.pieces` cuts a text, from the left, into tags with their backslashes and single code
  points; joined again, the pieces are the text (`source_pieces`).
* `Markup.liveTags` are the tags that the console acts on. A live **closing tag**, with a slash
  after its bracket, has to close a tag of the same name, and `Markup.settle` keeps account of that.
* `Markup.escape` makes every tag of a text literal.
* `Markup.highlight` puts a text between a pair of tags of our own.
-/

namespace JenkinsAdmission.Markup

/-- The backslash. -/
def slash : CodePoint := .scalar '\\'

/-- The code points that may follow the opening bracket of a tag. -/
def opensTag : CodePoint → Bool
  | .scalar c => c.isLower || c == '#' || c == '/' || c == '@'
  | .surrogate _ => false

/-- The rest of a tag through its closing bracket, and what follows it. -/
def tagBody? : Text → Option (Text × Text)
  | [] => none
  | c :: rest =>
    if c = .scalar ']' then some ([c], rest)
    else if c = .scalar '[' then none
    else (tagBody? rest).map fun (body, after) => (c :: body, after)

/-- The tag at the start of a text, and what follows it. -/
def tag? : Text → Option (Text × Text)
  | a :: b :: rest =>
    if a = .scalar '[' ∧ opensTag b then
      (tagBody? rest).map fun (body, after) => (a :: b :: body, after)
    else none
  | _ => none

theorem append_of_tagBody? {t body after : Text} (h : tagBody? t = some (body, after)) :
    t = body ++ after := by
  induction t generalizing body with
  | nil => simp [tagBody?] at h
  | cons c rest ih =>
    simp only [tagBody?] at h
    split at h
    · simp at h; simp [← h.1, ← h.2]
    · split at h
      · simp at h
      · obtain ⟨⟨b, a⟩, hb, he⟩ := Option.map_eq_some_iff.1 h
        simp at he
        obtain ⟨rfl, rfl⟩ := he
        simp [ih hb]

theorem append_of_tag? {t tag after : Text} (h : tag? t = some (tag, after)) :
    t = tag ++ after := by
  match t with
  | [] => simp [tag?] at h
  | [_] => simp [tag?] at h
  | a :: b :: rest =>
    simp only [tag?] at h
    split at h
    · obtain ⟨⟨body, a'⟩, hb, he⟩ := Option.map_eq_some_iff.1 h
      simp at he
      obtain ⟨rfl, rfl⟩ := he
      simp [append_of_tagBody? hb]
    · simp at h

/-- A tag is never empty, so what follows it is shorter than the text. -/
theorem length_lt_of_tag? {t tag after : Text} (h : tag? t = some (tag, after)) :
    after.length < t.length := by
  match t with
  | [] => simp [tag?] at h
  | [_] => simp [tag?] at h
  | a :: b :: rest =>
    simp only [tag?] at h
    split at h
    · obtain ⟨⟨body, a'⟩, hb, he⟩ := Option.map_eq_some_iff.1 h
      simp at he
      obtain ⟨rfl, rfl⟩ := he
      have := congrArg List.length (append_of_tagBody? hb)
      simp at this ⊢
      omega
    · simp at h

/-! ## Pieces -/

/-- A piece of a text. -/
inductive Piece
  /-- a code point outside every tag -/
  | plain (c : CodePoint)
  /-- a tag with the number of backslashes in front of it -/
  | tag (slashes : Nat) (text : Text)
  deriving DecidableEq

namespace Piece

/-- The text of a piece as it was read. -/
def source : Piece → Text
  | plain c => [c]
  | tag n t => List.replicate n slash ++ t

/-- The text of a piece with its tag made literal: each backslash doubled and one added. -/
def escaped : Piece → Text
  | plain c => [c]
  | tag n t => List.replicate (2 * n + 1) slash ++ t

/-- Whether a piece is a tag that the console acts on. -/
def isLive : Piece → Bool
  | plain _ => false
  | tag n _ => n % 2 == 0

end Piece

/-- The pieces of a text after `n` backslashes. -/
def piecesFrom (n : Nat) (t : Text) : List Piece :=
  match t with
  | [] => List.replicate n (.plain slash)
  | c :: rest =>
    if c = slash then piecesFrom (n + 1) rest
    else
      match h : tag? (c :: rest) with
      | some (tag, after) => .tag n tag :: piecesFrom 0 after
      | none => List.replicate n (.plain slash) ++ .plain c :: piecesFrom 0 rest
termination_by t.length
decreasing_by
  · simp
  · exact length_lt_of_tag? h
  · simp

/-- The pieces of a text, found from the left. -/
def pieces (t : Text) : List Piece :=
  piecesFrom 0 t

theorem source_piecesFrom (n : Nat) (t : Text) :
    (piecesFrom n t).flatMap Piece.source = List.replicate n slash ++ t := by
  have plains (n : Nat) : (List.replicate n (Piece.plain slash)).flatMap Piece.source
      = List.replicate n slash := by
    induction n with
    | zero => rfl
    | succ n ih => simp [List.replicate_succ, Piece.source, ih]
  fun_induction piecesFrom n t with
  | case1 n => simp [plains]
  | case2 n rest ih => simp [ih, List.replicate_succ']
  | case3 n c rest _ tag after h ih => simp [Piece.source, ih, append_of_tag? h]
  | case4 n c rest _ _ ih => simp [plains, Piece.source, ih]

/-- Nothing of a text is lost when it is cut into pieces. -/
theorem source_pieces (t : Text) : (pieces t).flatMap Piece.source = t := by
  simp [pieces, source_piecesFrom]

/-! ## Live tags -/

/-- The tag that a piece is, if the console acts on it. -/
def Piece.liveTag? (p : Piece) : Option Text :=
  match p with
  | plain _ => none
  | tag _ text => if p.isLive then some text else none

/-- The live tags of a text, in order. -/
def liveTags (t : Text) : List Text :=
  (pieces t).filterMap Piece.liveTag?

/-- What stands between the brackets of a tag. -/
def tagName (tag : Text) : Text :=
  (tag.drop 1).dropLast

/-- What a closing tag closes: the tag of the same name, or just any if it has no name. -/
def closedBy? (tag : Text) : Option Text :=
  match tagName tag with
  | .scalar '/' :: name => some name
  | _ => none

/-- The names of open tags, the innermost first, after some more tags. There are none if one of
these closes what is not open. -/
def settle (opened : List Text) : List Text → Option (List Text)
  | [] => some opened
  | tag :: rest =>
    match closedBy? tag with
    | none => settle (tagName tag :: opened) rest
    | some [] => if opened.isEmpty then none else settle opened.tail rest
    | some name => if opened.contains name then settle (opened.erase name) rest else none

/-- A text in which every live closing tag closes a tag. -/
def isBalanced (t : Text) : Bool :=
  (settle [] (liveTags t)).isSome

/-! ## Writing -/

/-- A text that ends in exactly one backslash gets a second one, so that it cannot reach what is
written after it. -/
def closeSlash (t : Text) : Text :=
  match t.reverse with
  | a :: b :: _ => if a = slash ∧ b ≠ slash then t ++ [slash] else t
  | [a] => if a = slash then t ++ [slash] else t
  | [] => t

/-- A text with every tag made literal. -/
def escape (t : Text) : Text :=
  closeSlash ((pieces t).flatMap Piece.escaped)

/-- A text between highlighting tags. -/
def highlight (t : Text) : Text :=
  "[highlight]" ++ escape t ++ "[/highlight]"

end JenkinsAdmission.Markup
