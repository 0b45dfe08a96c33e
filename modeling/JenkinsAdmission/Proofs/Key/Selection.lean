import JenkinsAdmission.Proofs.Key.BodyText

/-!
# Which PEM block is read

What data have at a position, said without a search, and what the decoder makes of it.

* `Pem.Block.ReadsAt` says that data read, from a position on, as a block: BEGIN marker, line end,
  body, END marker. `Pem.Selected` is the block at the least position, with the shortest body there.
* `Pem.Finds` is the outcome of decoding the text of the selected block.
* `Pem.decode?_eq_iff_finds` says that the decoder has this outcome and no other.

The search is followed from the inside out: `Pem.before?` finds the shortest body, `Pem.blockAt?`
the block that data begin with, and `Pem.firstBlock?` the one at the least position.
-/

namespace JenkinsAdmission.Pem

/-! ## The reference -/

/-- The bytes of a label. -/
def labelAlphabet : Bytes := Bytes.ofString "ABCDEFGHIJKLMNOPQRSTUVWXYZ0123456789 "

/-- What ends the line of a BEGIN marker. -/
def lineEnds : List Bytes := [[lineFeed], [carriageReturn, lineFeed]]

/-- Data that read as a block from a position on. -/
structure Block.ReadsAt (block : Block) (data : Bytes) (i : Nat) : Prop where
  /-- the label is not empty -/
  label_ne : block.label ≠ []
  /-- the label is made of label bytes -/
  label_mem : ∀ b ∈ block.label, b ∈ labelAlphabet
  /-- the parts of the block follow one another -/
  reads : ∃ lineEnd ∈ lineEnds, ∃ after, data.drop i =
    beginMark ++ block.label ++ dashes ++ lineEnd ++ block.body ++ endMark block.label ++ after

/-- The block at the least position, with the shortest body that it can have there. -/
structure Selected (data : Bytes) (i : Nat) (block : Block) : Prop where
  /-- the block is there -/
  reads : block.ReadsAt data i
  /-- there is no block before it -/
  leftmost : ∀ j < i, ∀ other : Block, ¬other.ReadsAt data j
  /-- no block at its position has a shorter body -/
  shortest : ∀ other : Block, other.ReadsAt data i → block.body.length ≤ other.body.length

/-- What decoding the selected block comes to. -/
inductive Finds (data : Bytes) : Option Content → Prop
  /-- there is no block -/
  | absent (h : ∀ i (block : Block), ¬block.ReadsAt data i) : Finds data none
  /-- the text of the selected block has no bytes -/
  | undecodable {i : Nat} {block : Block} {text : Bytes} (hselected : Selected data i block)
      (htext : TextOf block.body text) (hdecode : ∀ der, Base64.decode text = .ok der → der = []) :
      Finds data none
  /-- the text of the selected block is decoded -/
  | content {i : Nat} {block : Block} {text der : Bytes} (hselected : Selected data i block)
      (htext : TextOf block.body text) (hdecode : Base64.decode text = .ok der) (hne : der ≠ []) :
      Finds data (some ⟨block.label, der⟩)

/-! ## The shortest body -/

/-- A marker stands behind some bytes. -/
def Precedes (body marker data : Bytes) : Prop :=
  ∃ after, data = body ++ (marker ++ after)

variable {marker data body : Bytes}

/-- The empty body precedes the marker where data begins with it. -/
theorem precedes_nil_left_iff : Precedes [] marker data ↔ marker.isPrefixOf data = true := by
  rw [List.isPrefixOf_iff_prefix]
  constructor
  · rintro ⟨after, rfl⟩
    exact ⟨after, rfl⟩
  · rintro ⟨after, rfl⟩
    exact ⟨after, rfl⟩

/-- A longer body precedes the marker if it does so byte by byte. -/
theorem precedes_cons_iff {a b : UInt8} {rest : Bytes} :
    Precedes (a :: body) marker (b :: rest) ↔ b = a ∧ Precedes body marker rest := by
  constructor
  · rintro ⟨after, h⟩
    obtain ⟨rfl, rfl⟩ := List.cons.inj h
    exact ⟨rfl, after, rfl⟩
  · rintro ⟨rfl, after, rfl⟩
    exact ⟨after, rfl⟩

/-- What is found stands before the marker, and nothing shorter does. -/
theorem precedes_of_before? (h : before? marker data = some body) :
    Precedes body marker data ∧
      ∀ other, Precedes other marker data → body.length ≤ other.length := by
  induction data generalizing body with
  | nil =>
    cases marker with
    | nil =>
      obtain rfl : [] = body := by simpa [before?] using h
      exact ⟨⟨[], rfl⟩, fun other _ => Nat.zero_le _⟩
    | cons a marker => simp [before?] at h
  | cons b rest ih =>
    rw [before?] at h
    by_cases hmarker : marker.isPrefixOf (b :: rest) = true
    · rw [if_pos hmarker] at h
      obtain rfl := Option.some.inj h
      exact ⟨precedes_nil_left_iff.mpr hmarker, fun other _ => Nat.zero_le _⟩
    · rw [if_neg hmarker] at h
      obtain ⟨body', hbody', rfl⟩ := Option.map_eq_some_iff.mp h
      obtain ⟨hprecedes, hshortest⟩ := ih hbody'
      refine ⟨precedes_cons_iff.mpr ⟨rfl, hprecedes⟩, fun other hother => ?_⟩
      -- an empty body would mean that the marker begins here
      cases other with
      | nil => exact absurd (precedes_nil_left_iff.mp hother) hmarker
      | cons a other =>
        obtain ⟨-, hother⟩ := precedes_cons_iff.mp hother
        exact Nat.succ_le_succ (hshortest other hother)

/-- Something is found wherever the marker occurs. -/
theorem exists_before?_of_precedes (h : Precedes body marker data) :
    ∃ found, before? marker data = some found := by
  induction data generalizing body with
  | nil =>
    obtain ⟨after, h⟩ := h
    obtain ⟨-, hmarker⟩ := List.append_eq_nil_iff.mp h.symm
    obtain ⟨rfl, -⟩ := List.append_eq_nil_iff.mp hmarker
    exact ⟨[], rfl⟩
  | cons b rest ih =>
    rw [before?]
    by_cases hmarker : marker.isPrefixOf (b :: rest) = true
    · exact ⟨[], if_pos hmarker⟩
    · rw [if_neg hmarker]
      cases body with
      | nil => exact absurd (precedes_nil_left_iff.mp h) hmarker
      | cons a body =>
        obtain ⟨-, hrest⟩ := precedes_cons_iff.mp h
        obtain ⟨found, hfound⟩ := ih hrest
        exact ⟨b :: found, by rw [hfound, Option.map_some]⟩

/-- The search finds the shortest body that precedes the marker. -/
theorem before?_eq_some_iff :
    before? marker data = some body ↔
      Precedes body marker data ∧
        ∀ other, Precedes other marker data → body.length ≤ other.length := by
  refine ⟨precedes_of_before?, fun ⟨hprecedes, hshortest⟩ => ?_⟩
  obtain ⟨found, hfound⟩ := exists_before?_of_precedes hprecedes
  obtain ⟨hfoundPrecedes, hfoundShortest⟩ := precedes_of_before? hfound
  have hlength : found.length = body.length :=
    Nat.le_antisymm (hfoundShortest body hprecedes) (hshortest found hfoundPrecedes)
  -- both are the beginning of the same data
  obtain ⟨after, hdata⟩ := hprecedes
  obtain ⟨after', hdata'⟩ := hfoundPrecedes
  obtain ⟨rfl, -⟩ := List.append_inj (hdata'.symm.trans hdata) hlength
  exact hfound

/-- The search fails where nothing precedes the marker. -/
theorem before?_eq_none_iff :
    before? marker data = none ↔ ∀ other, ¬Precedes other marker data := by
  constructor
  · intro h other hother
    obtain ⟨found, hfound⟩ := exists_before?_of_precedes hother
    rw [h] at hfound
    cases hfound
  · intro h
    rw [Option.eq_none_iff_forall_ne_some]
    exact fun found hfound => h found (precedes_of_before? hfound).1

/-! ## The line of the BEGIN marker -/

theorem isLabelByte_iff {b : UInt8} : isLabelByte b = true ↔ b ∈ labelAlphabet := by
  have hall : ∀ n : Fin 256, isLabelByte (.ofFin n) = true ↔ UInt8.ofFin n ∈ labelAlphabet := by
    decide +kernel
  exact hall b.toFin

/-- Data that begin with the line of a BEGIN marker. -/
structure Opens (data label rest : Bytes) : Prop where
  /-- the label is not empty -/
  label_ne : label ≠ []
  /-- the label is made of label bytes -/
  label_mem : ∀ b ∈ label, b ∈ labelAlphabet
  /-- the line is followed by the rest -/
  eq : ∃ lineEnd ∈ lineEnds, data = beginMark ++ (label ++ (dashes ++ (lineEnd ++ rest)))

/-- The label of the BEGIN marker that data begin with, and what follows its line. -/
def opening? (data : Bytes) : Option (Bytes × Bytes) := do
  let rest ← beginMark.isPrefixOf? data
  let label := rest.takeWhile isLabelByte
  let rest ← dashes.isPrefixOf? (rest.dropWhile isLabelByte)
  let rest ← afterLineEnd? rest
  if label.isEmpty then none else some (label, rest)

/-- One of the line ends is passed over. -/
theorem afterLineEnd?_eq_some_iff {rest : Bytes} :
    afterLineEnd? data = some rest ↔ ∃ lineEnd ∈ lineEnds, data = lineEnd ++ rest := by
  have hends : (∃ lineEnd ∈ lineEnds, data = lineEnd ++ rest) ↔
      data = lineFeed :: rest ∨ data = carriageReturn :: lineFeed :: rest := by
    simp [lineEnds]
  rw [hends]
  have hne : carriageReturn ≠ lineFeed := by decide
  rcases data with _ | ⟨a, tail⟩
  · simp [afterLineEnd?]
  · by_cases hfeed : a = lineFeed
    · simp [afterLineEnd?, hfeed, hne.symm]
    · by_cases hreturn : a = carriageReturn
      · rcases tail with _ | ⟨b, tail⟩
        · simp [afterLineEnd?, hreturn, hne]
        · simp [afterLineEnd?, hreturn, hne]
      · simp [afterLineEnd?, hfeed, hreturn]

/-- A label ends where the dashes begin. -/
theorem takeWhile_label {label : Bytes} (h : ∀ b ∈ label, b ∈ labelAlphabet) (rest : Bytes) :
    (label ++ (dashes ++ rest)).takeWhile isLabelByte = label ∧
      (label ++ (dashes ++ rest)).dropWhile isLabelByte = dashes ++ rest := by
  have hlabel : ∀ b ∈ label, isLabelByte b = true := fun b hb => isLabelByte_iff.mpr (h b hb)
  have hdash : isLabelByte 0x2D = false := by decide
  have hdashes : dashes ++ rest = 0x2D :: ([0x2D, 0x2D, 0x2D, 0x2D] ++ rest) := rfl
  rw [List.takeWhile_append_of_pos hlabel, List.dropWhile_append_of_pos hlabel, hdashes,
    List.takeWhile_cons_of_neg (by simp [hdash]), List.dropWhile_cons_of_neg (by simp [hdash]),
    List.append_nil]
  exact ⟨rfl, rfl⟩

/-- The reader of the first line agrees with the reference. -/
theorem opening?_eq_some_iff {label rest : Bytes} :
    opening? data = some (label, rest) ↔ Opens data label rest := by
  simp only [opening?, Option.bind_eq_bind, Option.bind_eq_some_iff,
    List.isPrefixOf?_eq_some_iff_append_eq, afterLineEnd?_eq_some_iff]
  constructor
  · rintro ⟨tail, rfl, line, hline, after, ⟨lineEnd, hend, rfl⟩, h⟩
    split at h
    · cases h
    · rename_i hempty
      obtain ⟨rfl, rfl⟩ := Prod.mk.inj (Option.some.inj h)
      refine ⟨?_, ?_, lineEnd, hend, ?_⟩
      · simpa using hempty
      · exact fun b hb => isLabelByte_iff.mp (List.mem_takeWhile_imp hb)
      · rw [hline, List.takeWhile_append_dropWhile]
  · rintro ⟨hne, hmem, lineEnd, hend, rfl⟩
    obtain ⟨htake, hdrop⟩ := takeWhile_label hmem (lineEnd ++ rest)
    refine ⟨_, rfl, _, hdrop.symm, rest, ⟨lineEnd, hend, rfl⟩, ?_⟩
    rw [htake, if_neg (by simpa using hne)]

/-- A block is read in two steps: the line of the marker, and what comes before the other one. -/
theorem blockAt?_eq :
    blockAt? data = (opening? data).bind fun opened =>
      (before? (endMark opened.1) opened.2).map fun body => ⟨opened.1, body⟩ := by
  unfold blockAt? opening?
  simp only [Option.bind_eq_bind, Option.bind_assoc]
  -- both read the same line, and only the place of the test for an empty label differs
  refine Option.bind_congr fun tail _ => Option.bind_congr fun line _ =>
    Option.bind_congr fun rest _ => ?_
  split
  · cases before? (endMark (tail.takeWhile isLabelByte)) rest <;> rfl
  · rw [Option.bind_some, Option.map_eq_bind]
    rfl

/-! ## The block that data begin with -/

/-- To read a block at a place is to open it there and to have its body precede the end. -/
theorem readsAt_iff {block : Block} {i : Nat} :
    block.ReadsAt data i ↔
      ∃ rest, Opens (data.drop i) block.label rest ∧
        Precedes block.body (endMark block.label) rest := by
  constructor
  · rintro ⟨hne, hmem, lineEnd, hend, after, h⟩
    refine ⟨_, ⟨hne, hmem, lineEnd, hend, ?_⟩, after, rfl⟩
    simp only [h, List.append_assoc]
  · rintro ⟨_, ⟨hne, hmem, lineEnd, hend, h⟩, after, rfl⟩
    refine ⟨hne, hmem, lineEnd, hend, after, ?_⟩
    simp only [h, List.append_assoc]

/-- A position has one label. -/
theorem label_eq_of_readsAt {a b : Block} {i : Nat} (ha : a.ReadsAt data i)
    (hb : b.ReadsAt data i) : a.label = b.label := by
  obtain ⟨resta, ha, -⟩ := readsAt_iff.mp ha
  obtain ⟨restb, hb, -⟩ := readsAt_iff.mp hb
  have heq := (opening?_eq_some_iff.mpr ha).symm.trans (opening?_eq_some_iff.mpr hb)
  exact (Prod.mk.inj (Option.some.inj heq)).1

/-- The block that is found at the start is the shortest one that can be read there. -/
theorem blockAt?_eq_some_iff {block : Block} :
    blockAt? data = some block ↔
      block.ReadsAt data 0 ∧
        ∀ other : Block, other.ReadsAt data 0 → block.body.length ≤ other.body.length := by
  simp only [readsAt_iff, List.drop_zero]
  rw [blockAt?_eq, Option.bind_eq_some_iff]
  constructor
  · rintro ⟨⟨label, rest⟩, hopening, h⟩
    obtain ⟨body, hbody, rfl⟩ := Option.map_eq_some_iff.mp h
    obtain ⟨hprecedes, hshortest⟩ := before?_eq_some_iff.mp hbody
    refine ⟨⟨rest, opening?_eq_some_iff.mp hopening, hprecedes⟩, ?_⟩
    rintro ⟨label', body'⟩ ⟨rest', hopens', hprecedes'⟩
    -- the opening is a function of the data, so the other block has the same label and rest
    rw [← opening?_eq_some_iff, hopening] at hopens'
    obtain ⟨rfl, rfl⟩ := Prod.mk.inj (Option.some.inj hopens')
    exact hshortest body' hprecedes'
  · rintro ⟨⟨rest, hopens, hprecedes⟩, hshortest⟩
    refine ⟨(block.label, rest), opening?_eq_some_iff.mpr hopens, ?_⟩
    refine Option.map_eq_some_iff.mpr ⟨block.body, before?_eq_some_iff.mpr ⟨hprecedes, ?_⟩, rfl⟩
    exact fun other hother => hshortest ⟨block.label, other⟩ ⟨rest, hopens, hother⟩

/-- None is found at the start only if none can be read there. -/
theorem blockAt?_eq_none_iff :
    blockAt? data = none ↔ ∀ block : Block, ¬block.ReadsAt data 0 := by
  simp only [readsAt_iff, List.drop_zero]
  rw [blockAt?_eq, Option.bind_eq_none_iff]
  constructor
  · rintro h block ⟨rest, hopens, hprecedes⟩
    have hnone := h (block.label, rest) (opening?_eq_some_iff.mpr hopens)
    exact before?_eq_none_iff.mp (Option.map_eq_none_iff.mp hnone) block.body hprecedes
  · rintro h ⟨label, rest⟩ hopening
    refine Option.map_eq_none_iff.mpr (before?_eq_none_iff.mpr fun other hother => ?_)
    exact h ⟨label, other⟩ ⟨rest, opening?_eq_some_iff.mp hopening, hother⟩

/-! ## The block at the least position -/

theorem not_readsAt_nil {block : Block} {i : Nat} : ¬block.ReadsAt [] i := by
  rintro ⟨-, -, lineEnd, -, after, h⟩
  have hbegin : beginMark ≠ [] := by decide
  simp [hbegin] at h

/-- A byte in front moves every block by one place. -/
theorem readsAt_succ_iff {block : Block} {b : UInt8} {rest : Bytes} {i : Nat} :
    block.ReadsAt (b :: rest) (i + 1) ↔ block.ReadsAt rest i := by
  simp only [readsAt_iff, List.drop_succ_cons]

theorem selected_zero_iff {block : Block} : Selected data 0 block ↔ blockAt? data = some block := by
  rw [blockAt?_eq_some_iff]
  constructor
  · exact fun h => ⟨h.reads, h.shortest⟩
  · exact fun h => ⟨h.1, fun j hj => absurd hj (Nat.not_lt_zero j), h.2⟩

/-- A block is selected behind a byte only if none begins at that byte. -/
theorem selected_succ_iff {block : Block} {b : UInt8} {rest : Bytes} {i : Nat} :
    Selected (b :: rest) (i + 1) block ↔ blockAt? (b :: rest) = none ∧ Selected rest i block := by
  rw [blockAt?_eq_none_iff]
  constructor
  · intro h
    refine ⟨h.leftmost 0 (Nat.succ_pos i), readsAt_succ_iff.mp h.reads, ?_, ?_⟩
    · exact fun j hj other hother =>
        h.leftmost (j + 1) (Nat.succ_lt_succ hj) other (readsAt_succ_iff.mpr hother)
    · exact fun other hother => h.shortest other (readsAt_succ_iff.mpr hother)
  · rintro ⟨hzero, h⟩
    refine ⟨readsAt_succ_iff.mpr h.reads, ?_, ?_⟩
    · intro j hj other hother
      cases j with
      | zero => exact hzero other hother
      | succ j =>
        exact h.leftmost j (Nat.lt_of_succ_lt_succ hj) other (readsAt_succ_iff.mp hother)
    · exact fun other hother => h.shortest other (readsAt_succ_iff.mp hother)

/-- The first block is the one that the reference selects. -/
theorem firstBlock?_eq_some_iff {block : Block} :
    firstBlock? data = some block ↔ ∃ i, Selected data i block := by
  induction data with
  | nil =>
    refine iff_of_false (by simp [firstBlock?]) ?_
    rintro ⟨i, h⟩
    exact not_readsAt_nil h.reads
  | cons b rest ih =>
    rw [firstBlock?]
    cases hblock : blockAt? (b :: rest) with
    | some found =>
      constructor
      · exact fun h => ⟨0, selected_zero_iff.mpr (hblock.trans h)⟩
      · -- a block that is selected at the start is the one there, and no other one is selected
        rintro ⟨_ | i, h⟩
        · exact hblock.symm.trans (selected_zero_iff.mp h)
        · rw [selected_succ_iff, hblock] at h
          cases h.1
    | none =>
      refine ih.trans ⟨fun ⟨i, h⟩ => ⟨i + 1, selected_succ_iff.mpr ⟨hblock, h⟩⟩, ?_⟩
      -- nothing is selected at the start, so every place moves by one
      rintro ⟨_ | i, h⟩
      · rw [selected_zero_iff, hblock] at h
        cases h
      · exact ⟨i, (selected_succ_iff.mp h).2⟩

/-- There is no first block where no block can be read at all. -/
theorem firstBlock?_eq_none_iff :
    firstBlock? data = none ↔ ∀ i (block : Block), ¬block.ReadsAt data i := by
  induction data with
  | nil => exact iff_of_true rfl fun i block => not_readsAt_nil
  | cons b rest ih =>
    have hsplit : (∀ i (block : Block), ¬block.ReadsAt (b :: rest) i) ↔
        (∀ block : Block, ¬block.ReadsAt (b :: rest) 0) ∧
          ∀ i (block : Block), ¬block.ReadsAt rest i := by
      constructor
      · intro h
        exact ⟨h 0, fun i block hblock => h (i + 1) block (readsAt_succ_iff.mpr hblock)⟩
      · rintro ⟨hzero, hsucc⟩ (_ | i) block hblock
        · exact hzero block hblock
        · exact hsucc i block (readsAt_succ_iff.mp hblock)
    rw [hsplit, ← blockAt?_eq_none_iff, ← ih, firstBlock?]
    cases blockAt? (b :: rest) <;> simp

/-! ## The outcome -/

/-- Only the payload of the selected block decides the outcome. -/
theorem decode?_of_selected {i : Nat} {block : Block} (hselected : Selected data i block) :
    decode? data =
      ((Base64.decode (payload block.body)).toOption.filter (· ≠ [])).map (⟨block.label, ·⟩) := by
  simp only [decode?, firstBlock?_eq_some_iff.mpr ⟨i, hselected⟩]
  rcases Base64.decode (payload block.body) with defect | (_ | ⟨b, der⟩)
  · rfl
  · rfl
  · rfl

/-- What the reference finds is what is decoded. -/
theorem decode?_eq_of_finds {result : Option Content} (h : Finds data result) :
    decode? data = result := by
  cases h with
  | absent h => rw [decode?, firstBlock?_eq_none_iff.mpr h]
  | @undecodable i block text hselected htext hdecode =>
    rw [decode?_of_selected hselected, textOf_iff.mp htext]
    cases hok : Base64.decode text with
    | error defect => rfl
    | ok der =>
      obtain rfl := hdecode der hok
      rfl
  | @content i block text der hselected htext hdecode hne =>
    rw [decode?_of_selected hselected, textOf_iff.mp htext, hdecode]
    obtain ⟨b, der, rfl⟩ := List.exists_cons_of_ne_nil hne
    rfl

/-- The reference finds something for all data, if only that there is nothing. -/
theorem exists_finds (data : Bytes) : ∃ result, Finds data result := by
  cases hblock : firstBlock? data with
  | none => exact ⟨none, .absent (firstBlock?_eq_none_iff.mp hblock)⟩
  | some block =>
    obtain ⟨i, hselected⟩ := firstBlock?_eq_some_iff.mp hblock
    have htext : TextOf block.body (payload block.body) := textOf_iff.mpr rfl
    cases hdecode : Base64.decode (payload block.body) with
    | error defect => exact ⟨none, .undecodable hselected htext (by simp [hdecode])⟩
    | ok der =>
      by_cases hne : der = []
      · exact ⟨none, .undecodable hselected htext (by simp [hdecode, hne])⟩
      · exact ⟨_, .content hselected htext hdecode hne⟩

/-- **The block that is read is the selected one.** A position determines the label of a block
there, and decoding has exactly the outcome of the block at the least position with the shortest
body: its content, or nothing if its text has no bytes, whatever stands after it. -/
theorem decode?_eq_iff_finds (data : Bytes) :
    (∀ i (a b : Block), a.ReadsAt data i → b.ReadsAt data i → a.label = b.label) ∧
      ∀ result, decode? data = result ↔ Finds data result := by
  refine ⟨fun i a b => label_eq_of_readsAt, fun result => ⟨?_, decode?_eq_of_finds⟩⟩
  rintro rfl
  obtain ⟨result, hfinds⟩ := exists_finds data
  rw [decode?_eq_of_finds hfinds]
  exact hfinds

/-- A BEGIN marker without its END is passed over. -/
example :
    decode? (Bytes.ofString
      "-----BEGIN A-----\n-----BEGIN B-----\nAAAA\n-----END B-----") =
      some ⟨Bytes.ofString "B", [0, 0, 0]⟩ := by
  decide +kernel

/-- A block that cannot be decoded is not made up for by the next one. -/
example :
    decode? (Bytes.ofString
      "-----BEGIN A-----\n!\n-----END A-----\n-----BEGIN B-----\nAAAA\n-----END B-----") =
      none := by
  decide +kernel

end JenkinsAdmission.Pem
