import JenkinsAdmission.Key.Pem
import Mathlib.Data.List.Forall2
import Mathlib.Data.List.TakeWhile

/-!
# The base64 text of a PEM body

What the body of a block says, apart from how it is laid out.

* `Pem.LinesOf` cuts a body into **lines**. Each of three line ends ends one line: a line feed, a
  carriage return, and a carriage return with a line feed after it.
* `Pem.Stripped` takes the white space off both ends of a line.
* `Pem.TextOf` puts the stripped lines together, without the empty ones and the headers.

`Pem.textOf_iff` says that `Pem.payload` is this text. It cuts at both bytes of a line end, which
makes more lines of a body, but no more that hold payload.
-/

namespace JenkinsAdmission.Pem

/-- ASCII white space. -/
def blanks : Bytes := [0x09, 0x0A, 0x0B, 0x0C, 0x0D, 0x20]

/-- A line that no line end breaks. -/
def Unbroken (line : Bytes) : Prop :=
  lineFeed ∉ line ∧ carriageReturn ∉ line

/-- The lines of a body. A line feed ends a line, a carriage return does, and the two of them in
this order do so once. -/
inductive LinesOf : Bytes → List Bytes → Prop
  /-- the last line has no end, and it may be empty -/
  | last {line : Bytes} (h : Unbroken line) : LinesOf line [line]
  /-- a line that a line feed ends -/
  | feed {line rest : Bytes} {others : List Bytes} (h : Unbroken line)
      (hrest : LinesOf rest others) :
      LinesOf (line ++ lineFeed :: rest) (line :: others)
  /-- a line that a carriage return and a line feed end -/
  | returnFeed {line rest : Bytes} {others : List Bytes} (h : Unbroken line)
      (hrest : LinesOf rest others) :
      LinesOf (line ++ carriageReturn :: lineFeed :: rest) (line :: others)
  /-- a line that a carriage return alone ends -/
  | carriage {line rest : Bytes} {others : List Bytes} (h : Unbroken line)
      (halone : rest.head? ≠ some lineFeed) (hrest : LinesOf rest others) :
      LinesOf (line ++ carriageReturn :: rest) (line :: others)

/-- A line without the white space at both its ends. -/
structure Stripped (line core : Bytes) : Prop where
  /-- only white space is left out -/
  around : ∃ left right, line = left ++ core ++ right ∧
    (∀ b ∈ left, b ∈ blanks) ∧ ∀ b ∈ right, b ∈ blanks
  /-- no white space stands in front any more -/
  head_notMem : ∀ b ∈ core.head?, b ∉ blanks
  /-- no white space stands at the end any more -/
  last_notMem : ∀ b ∈ core.getLast?, b ∉ blanks

/-- The base64 text of a body: its stripped lines in order, less the empty ones and the headers. -/
def TextOf (body text : Bytes) : Prop :=
  ∃ ls cores, LinesOf body ls ∧ List.Forall₂ Stripped ls cores ∧
    text = (cores.filter fun core => core ≠ [] ∧ 0x3A ∉ core).flatten

variable {body : Bytes}

/-! ## White space -/

/-- The blanks that are trimmed are white space in ASCII. -/
theorem isBlank_iff {b : UInt8} : isBlank b = true ↔ b ∈ blanks := by
  have hall : ∀ n : Fin 256, isBlank (.ofFin n) = true ↔ UInt8.ofFin n ∈ blanks := by
    decide +kernel
  exact hall b.toFin

theorem isBlank_eq_false_iff {b : UInt8} : isBlank b = false ↔ b ∉ blanks := by
  rw [← isBlank_iff, Bool.not_eq_true]

/-- What is left of bytes of which the first ones are blank and the next one is not. -/
theorem dropWhile_isBlank {left core : Bytes} (hleft : ∀ b ∈ left, b ∈ blanks)
    (hcore : ∀ b ∈ core.head?, b ∉ blanks) : (left ++ core).dropWhile isBlank = core := by
  rw [List.dropWhile_append_of_pos fun b hb => isBlank_iff.mpr (hleft b hb)]
  cases core with
  | nil => rfl
  | cons a core =>
    have ha : isBlank a = false := isBlank_eq_false_iff.mpr (hcore a rfl)
    exact List.dropWhile_cons_of_neg (by simp [ha])

/-- Bytes without the white space in front are what is left. -/
theorem exists_dropWhile_isBlank (line : Bytes) :
    (∃ left, line = left ++ line.dropWhile isBlank ∧ ∀ b ∈ left, b ∈ blanks) ∧
      ∀ b ∈ (line.dropWhile isBlank).head?, b ∉ blanks := by
  refine ⟨⟨line.takeWhile isBlank, List.takeWhile_append_dropWhile.symm, ?_⟩, ?_⟩
  · exact fun b hb => isBlank_iff.mp (List.mem_takeWhile_imp hb)
  · intro b hb
    have hhead := List.head?_dropWhile_not isBlank line
    rw [Option.mem_def.mp hb] at hhead
    exact isBlank_eq_false_iff.mp hhead

/-- What trimming leaves is the line without the blanks around it. -/
theorem stripped_trim (line : Bytes) : Stripped line (trim line) := by
  obtain ⟨⟨left, hleft, hleftBlank⟩, hhead⟩ := exists_dropWhile_isBlank line
  obtain ⟨⟨right, hright, hrightBlank⟩, hlast⟩ :=
    exists_dropWhile_isBlank (line.dropWhile isBlank).reverse
  have hcore : line.dropWhile isBlank = trim line ++ right.reverse := by
    rw [trim, ← List.reverse_append, ← hright, List.reverse_reverse]
  refine ⟨⟨left, right.reverse, ?_, hleftBlank, ?_⟩, ?_, ?_⟩
  · rw [List.append_assoc, ← hcore]
    exact hleft
  · exact fun b hb => hrightBlank b (List.mem_reverse.mp hb)
  · intro b hb
    refine hhead b ?_
    rw [hcore, List.head?_append, Option.mem_def.mp hb]
    rfl
  · intro b hb
    rw [trim, List.getLast?_reverse] at hb
    exact hlast b hb

/-- There is only one way to strip a line. -/
theorem trim_eq_of_stripped {line core : Bytes} (h : Stripped line core) : trim line = core := by
  obtain ⟨⟨left, right, rfl, hleft, hright⟩, hhead, hlast⟩ := h
  have hright' : ∀ b ∈ right.reverse, b ∈ blanks := fun b hb => hright b (List.mem_reverse.mp hb)
  have hlast' : ∀ b ∈ core.reverse.head?, b ∉ blanks := by
    rwa [List.head?_reverse]
  -- a line of white space has nothing left after the first pass, and any other line has its core
  by_cases hempty : core = []
  · subst hempty
    have hblank : (left ++ right).dropWhile isBlank = [] := by
      have hall : ∀ b ∈ left ++ right, b ∈ blanks := fun b hb =>
        (List.mem_append.mp hb).elim (hleft b) (hright b)
      have hnone : ∀ b ∈ ([] : Bytes).head?, b ∉ blanks := nofun
      rw [← List.append_nil (left ++ right), dropWhile_isBlank hall hnone]
    rw [trim, List.append_nil, hblank]
    rfl
  · have hhead' : ∀ b ∈ (core ++ right).head?, b ∉ blanks := by
      rwa [List.head?_append_of_ne_nil _ hempty]
    rw [trim, List.append_assoc, dropWhile_isBlank hleft hhead', List.reverse_append,
      dropWhile_isBlank hright' hlast', List.reverse_reverse]

theorem trim_eq_iff {line core : Bytes} : trim line = core ↔ Stripped line core :=
  ⟨fun h => h ▸ stripped_trim line, trim_eq_of_stripped⟩

/-! ## Lines -/

theorem unbroken_nil : Unbroken [] :=
  ⟨List.not_mem_nil, List.not_mem_nil⟩

theorem unbroken_cons_iff {b : UInt8} {line : Bytes} :
    Unbroken (b :: line) ↔ (b ≠ lineFeed ∧ b ≠ carriageReturn) ∧ Unbroken line := by
  simp only [Unbroken, List.mem_cons, not_or, ne_eq, eq_comm (b := b)]
  tauto

/-- A line without line ends is the only line. -/
theorem lines_of_unbroken {line : Bytes} (h : Unbroken line) : lines line = [line] := by
  induction line with
  | nil => rfl
  | cons b line ih =>
    obtain ⟨hb, hline⟩ := unbroken_cons_iff.mp h
    rw [lines, if_neg (by tauto), ih hline]

/-- Either byte of a line end ends a line. -/
theorem lines_append {line rest : Bytes} {b : UInt8} (h : Unbroken line)
    (hb : b = lineFeed ∨ b = carriageReturn) : lines (line ++ b :: rest) = line :: lines rest := by
  induction line with
  | nil => rw [List.nil_append, lines, if_pos hb]
  | cons a line ih =>
    obtain ⟨ha, hline⟩ := unbroken_cons_iff.mp h
    rw [List.cons_append, lines, if_neg (by tauto), ih hline]

/-- A byte in front belongs to the first line. -/
theorem LinesOf.cons {b : UInt8} {body : Bytes} {ls : List Bytes} (h : LinesOf body ls)
    (hb : b ≠ lineFeed ∧ b ≠ carriageReturn) : ∃ ls', LinesOf (b :: body) ls' := by
  cases h with
  | last h => exact ⟨_, .last (unbroken_cons_iff.mpr ⟨hb, h⟩)⟩
  | feed h hrest => exact ⟨_, .feed (unbroken_cons_iff.mpr ⟨hb, h⟩) hrest⟩
  | returnFeed h hrest => exact ⟨_, .returnFeed (unbroken_cons_iff.mpr ⟨hb, h⟩) hrest⟩
  | carriage h halone hrest => exact ⟨_, .carriage (unbroken_cons_iff.mpr ⟨hb, h⟩) halone hrest⟩

/-- Every body has lines. -/
theorem exists_linesOf : ∀ body : Bytes, ∃ ls, LinesOf body ls
  | [] => ⟨_, .last unbroken_nil⟩
  | b :: rest => by
    obtain ⟨ls, hls⟩ := exists_linesOf rest
    by_cases hfeed : b = lineFeed
    · exact ⟨[] :: ls, hfeed ▸ .feed unbroken_nil hls⟩
    · by_cases hreturn : b = carriageReturn
      · subst hreturn
        by_cases hpair : rest.head? = some lineFeed
        · obtain ⟨rest', rfl⟩ : ∃ rest', rest = lineFeed :: rest' :=
            ⟨rest.tail, (List.cons_head?_tail hpair).symm⟩
          obtain ⟨ls', hls'⟩ := exists_linesOf rest'
          exact ⟨[] :: ls', .returnFeed unbroken_nil hls'⟩
        · exact ⟨[] :: ls, .carriage unbroken_nil hpair hls⟩
      · exact hls.cons ⟨hfeed, hreturn⟩
termination_by body => body.length

/-- The lines that hold payload are the same when the bytes of a line end are taken apart. -/
theorem LinesOf.filter_lines {ls : List Bytes} (h : LinesOf body ls) :
    ((lines body).map trim).filter isPayloadLine = (ls.map trim).filter isPayloadLine := by
  induction h with
  | last h => rw [lines_of_unbroken h]
  | feed h _ ih =>
    rw [lines_append h (.inl rfl), List.map_cons, List.map_cons, List.filter_cons, ih,
      List.filter_cons]
  | carriage h _ _ ih =>
    rw [lines_append h (.inr rfl), List.map_cons, List.map_cons, List.filter_cons, ih,
      List.filter_cons]
  | @returnFeed line rest others h _ ih =>
    -- the empty line between the two bytes holds no payload
    have hpair : lines (lineFeed :: rest) = [] :: lines rest :=
      lines_append unbroken_nil (.inl rfl)
    have hempty : isPayloadLine (trim []) = false := rfl
    rw [lines_append h (.inr rfl), hpair, List.map_cons, List.map_cons, List.map_cons,
      List.filter_cons, List.filter_cons, List.filter_cons, hempty, ih]
    rfl

/-! ## The payload line by line -/

/-- What a line adds to the payload of its body. -/
def lineText (line : Bytes) : Bytes :=
  if isPayloadLine (trim line) then trim line else []

/-- The payload can be put together line by line. -/
theorem payload_eq (body : Bytes) : payload body = (lines body).flatMap lineText := by
  rw [payload]
  induction lines body with
  | nil => rfl
  | cons line ls ih =>
    rw [List.map_cons, List.filter_cons, List.flatMap_cons, ← ih, lineText]
    split <;> rfl

theorem payload_of_unbroken {line : Bytes} (h : Unbroken line) :
    payload line = lineText line := by
  rw [payload_eq, lines_of_unbroken h, List.flatMap_singleton]

/-- A line end is passed over, whichever of the two it is. -/
theorem payload_append {line rest : Bytes} (h : Unbroken line) {lineEnd : Bytes}
    (hend : lineEnd = [lineFeed] ∨ lineEnd = [carriageReturn, lineFeed]) :
    payload (line ++ (lineEnd ++ rest)) = lineText line ++ payload rest := by
  have hempty : lineText [] = [] := rfl
  rcases hend with rfl | rfl
  · rw [payload_eq, List.singleton_append, lines_append h (.inl rfl), List.flatMap_cons,
      payload_eq]
  · have hpair : lines (lineFeed :: rest) = [] :: lines rest :=
      lines_append unbroken_nil (.inl rfl)
    rw [payload_eq, List.cons_append, List.singleton_append, lines_append h (.inr rfl), hpair,
      List.flatMap_cons, List.flatMap_cons, hempty, List.nil_append, payload_eq]

/-! ## The text -/

theorem isPayloadLine_iff {line : Bytes} :
    isPayloadLine line = true ↔ line ≠ [] ∧ 0x3A ∉ line := by
  simp [isPayloadLine]

theorem forall₂_stripped_iff {ls cores : List Bytes} :
    List.Forall₂ Stripped ls cores ↔ ls.map trim = cores := by
  induction ls generalizing cores with
  | nil => cases cores <;> simp
  | cons line ls ih =>
    cases cores with
    | nil => simp
    | cons core cores => simp [ih, trim_eq_iff]

/-- The text of a body, as the reference describes it, is the payload. -/
theorem textOf_iff {text : Bytes} : TextOf body text ↔ payload body = text := by
  have hfilter : (fun core : Bytes => decide (core ≠ [] ∧ 0x3A ∉ core)) = isPayloadLine := by
    funext core
    rw [Bool.eq_iff_iff, decide_eq_true_iff, isPayloadLine_iff]
  simp only [TextOf, forall₂_stripped_iff, hfilter]
  constructor
  · rintro ⟨ls, _, hls, rfl, rfl⟩
    rw [payload, hls.filter_lines]
  · rintro rfl
    obtain ⟨ls, hls⟩ := exists_linesOf body
    exact ⟨ls, _, hls, rfl, by rw [payload, hls.filter_lines]⟩

end JenkinsAdmission.Pem
