import JenkinsAdmission.Proofs.Outcome
import JenkinsAdmission.Proofs.Unicode.Utf8
import JenkinsAdmission.Yaml.Source

/-!
# Reading in portions

A file is decoded block by block and looked over portion by portion. `Source.ofBytes_of_decode` says
that this comes to the same as doing all of it at once, as long as nothing is wrong with the file,
and `Source.fault_ofBytes` says what is wrong with it where there is a fault.

What carries both is the text that is still to come from a feed (`Feed.text?`): a block and a
portion change the feed and leave that text what it was.
-/

namespace JenkinsAdmission.Yaml

/-! ## Line ends -/

/-- A carriage return alone is a line end. -/
theorem unifyLineEnds_return {rest : List Char} (h : rest.head? ≠ some '\n') :
    unifyLineEnds ('\r' :: rest) = '\n' :: unifyLineEnds rest := by
  rw [unifyLineEnds]
  rintro after rfl
  exact h rfl

theorem unifyLineEnds_cons {c : Char} {rest : List Char} (h : c ≠ '\r') :
    unifyLineEnds (c :: rest) = c :: unifyLineEnds rest := by
  rw [unifyLineEnds]
  · rintro after rfl
    exact fun _ => h rfl
  · exact h

/-- Line ends may be made alike on both sides of a place that is not inside of one. -/
theorem unifyLineEnds_append {a b : List Char}
    (h : a.getLast? ≠ some '\r' ∨ b.head? ≠ some '\n') :
    unifyLineEnds (a ++ b) = unifyLineEnds a ++ unifyLineEnds b := by
  fun_induction unifyLineEnds a with
  | case1 rest ih =>
    rw [List.cons_append, List.cons_append, unifyLineEnds, List.cons_append, ih]
    refine h.imp_left fun h hlast => h ?_
    simp [List.getLast?_cons, hlast]
  -- a return at the end of the first part meets no line feed, by assumption
  | case2 rest hrest ih =>
    cases rest with
    | nil =>
      have hhead : b.head? ≠ some '\n' := h.resolve_left fun hlast => hlast rfl
      simp only [List.cons_append, List.nil_append, unifyLineEnds_return hhead, unifyLineEnds]
    | cons c rest =>
      have hc : (c :: (rest ++ b)).head? ≠ some '\n' := by
        intro hhead
        obtain rfl := Option.some.inj hhead
        exact hrest rest rfl
      rw [List.getLast?_cons_cons] at h
      rw [List.cons_append, List.cons_append, unifyLineEnds_return hc, List.cons_append,
        ← List.cons_append, ih h]
  | case3 c rest h1 h2 ih =>
    rw [List.cons_append, unifyLineEnds_cons h2, List.cons_append, ih]
    refine h.imp_left fun h hlast => h ?_
    simp [List.getLast?_cons, hlast]
  | case4 => rfl

/-- Unifying line ends makes no text longer. -/
theorem length_unifyLineEnds_le (chars : List Char) :
    (unifyLineEnds chars).length ≤ chars.length := by
  fun_induction unifyLineEnds chars <;> simp only [List.length_cons, List.length_nil] <;> omega

/-- Unifying line ends does not touch what is permitted, since both kinds are. -/
theorem all_isPermitted_unifyLineEnds (chars : List Char) :
    (unifyLineEnds chars).all isPermitted = chars.all isPermitted := by
  have hfeed : isPermitted '\n' = true := by decide
  have hreturn : isPermitted '\r' = true := by decide
  fun_induction unifyLineEnds chars with
  | case1 rest ih | case2 rest hrest ih =>
    simp only [List.all_cons, ih, hfeed, hreturn, Bool.true_and]
  | case3 c rest h1 h2 ih => simp only [List.all_cons, ih]
  | case4 => rfl

/-! ## Blocks -/

/-- The characters of a block and what is held back of it stand for the block. -/
theorem map_decode_of_decodeBlock {block held : Bytes} {chars : List Char}
    (h : decodeBlock block = some (chars, held)) (more : Bytes) :
    (Utf8.decode (block ++ more)).map unifyLineEnds =
      (Utf8.decode (held ++ more)).map fun text => chars ++ unifyLineEnds text := by
  obtain ⟨⟨whole, cut⟩, hblock, heq⟩ := Option.map_eq_some_iff.mp h
  rw [Utf8.decode_append_of_complete hblock, Option.map_map]
  simp only at heq
  split at heq
  · next hlast =>
    obtain ⟨rfl, rfl⟩ := Prod.mk.inj heq
    -- the carriage return at the end goes over to what follows
    obtain ⟨front, rfl⟩ := List.getLast?_eq_some_iff.mp hlast
    have hreturn : Utf8.decode (0x0D :: (cut ++ more)) =
        (Utf8.decode (cut ++ more)).map ('\r' :: ·) :=
      Utf8.decode_append (a := [0x0D]) rfl _
    rw [List.cons_append, hreturn, Option.map_map, List.dropLast_concat]
    refine congrArg (Option.map · _) (funext fun text => ?_)
    simp only [Function.comp_apply, List.append_assoc, List.singleton_append]
    rw [unifyLineEnds_append (.inr (by simp))]
  · next hlast =>
    obtain ⟨rfl, rfl⟩ := Prod.mk.inj heq
    refine congrArg (Option.map · _) (funext fun text => ?_)
    exact unifyLineEnds_append (.inl hlast)

/-- A block that cannot be decoded cannot be decoded whatever follows. -/
theorem decode_of_decodeBlock_eq_none {block : Bytes} (h : decodeBlock block = none)
    (more : Bytes) : Utf8.decode (block ++ more) = none :=
  Utf8.decode_append_of_incomplete (Option.map_eq_none_iff.mp h) more

/-- A block has at least a byte for each character. -/
theorem length_le_of_decodeBlock {block held : Bytes} {chars : List Char}
    (h : decodeBlock block = some (chars, held)) :
    chars.length + held.length ≤ block.length := by
  obtain ⟨⟨whole, cut⟩, hblock, heq⟩ := Option.map_eq_some_iff.mp h
  have hlength := Utf8.length_le_of_complete hblock
  simp only at heq
  split at heq
  · next hlast =>
    obtain ⟨rfl, rfl⟩ := Prod.mk.inj heq
    obtain ⟨front, rfl⟩ := List.getLast?_eq_some_iff.mp hlast
    have := length_unifyLineEnds_le front
    simp only [List.dropLast_concat, List.length_append, List.length_cons]
      at hlength ⊢
    omega
  · obtain ⟨rfl, rfl⟩ := Prod.mk.inj heq
    have := length_unifyLineEnds_le whole
    omega

/-! ## Feeds -/

namespace Feed

/-- The text that is still to come, if the bytes can be decoded. -/
def text? (f : Feed) : Option (List Char) :=
  (Utf8.decode (f.held ++ f.rest)).map fun text => f.ready ++ unifyLineEnds text

/-- A bound on the number of blocks that are still to come. -/
def pending (f : Feed) : Nat :=
  f.rest.length + if f.rest = [] ∧ f.held = [] then 0 else 1

/-- A bound on the number of characters that are still to come. -/
def size (f : Feed) : Nat :=
  f.ready.length + f.held.length + f.rest.length

variable {f g : Feed} {wanted : Nat}

/-- A feed is filled up with a block of what is left of the file, or with what was held back. -/
theorem refill_cases (f : Feed) (wanted : Nat) :
    f.rest = [] ∧ f.refill wanted = f.close ∨
    ∃ block rest, f.rest = block ++ rest ∧ block ≠ [] ∧
      f.refill wanted = (f.add block rest).map some := by
  have hpos : f.blockSize wanted ≠ 0 := by
    rw [blockSize]
    omega
  rw [refill]
  simp only [List.splitAt_eq, List.isEmpty_iff, List.take_eq_nil_iff, hpos, false_or]
  by_cases hrest : f.rest = []
  · exact .inl ⟨hrest, if_pos hrest⟩
  · refine .inr ⟨_, _, (List.take_append_drop (f.blockSize wanted) f.rest).symm, ?_, if_neg hrest⟩
    simp [hpos, hrest]

/-- Filling a feed up fails only where there is something that cannot be decoded. -/
theorem refill_eq_error {fault : Fault} (h : f.refill wanted = .error fault) :
    fault = .broken .undecodableBytes ∧ Utf8.decode (f.held ++ f.rest) = none := by
  rcases f.refill_cases wanted with ⟨hrest, hrefill⟩ | ⟨block, rest, hrest, -, hrefill⟩
  · rw [hrefill, close] at h
    split at h
    · next hheld =>
      cases h
      exact ⟨rfl, by rwa [hrest, List.append_nil]⟩
    · cases h
    · cases h
  · rw [hrefill, Except.map_eq_error_iff, add] at h
    split at h
    · next hblock =>
      cases h
      exact ⟨rfl, by rw [hrest, ← List.append_assoc, decode_of_decodeBlock_eq_none hblock]⟩
    · cases h

/-- A feed that is not filled up is at the end. -/
theorem refill_eq_none (h : f.refill wanted = .ok none) :
    Utf8.decode (f.held ++ f.rest) = some [] := by
  rcases f.refill_cases wanted with ⟨hrest, hrefill⟩ | ⟨block, rest, -, -, hrefill⟩
  · rw [hrefill, close] at h
    split at h
    · cases h
    · next hheld => rw [hrest, List.append_nil, hheld]
    · cases h
  · rw [hrefill, Except.map_eq_ok_iff] at h
    obtain ⟨g, -, hg⟩ := h
    cases hg

/-- What a block gives goes over to what is ready, and the text stays what it was. -/
theorem refill_eq_some (h : f.refill wanted = .ok (some g)) :
    (Utf8.decode (f.held ++ f.rest)).map unifyLineEnds = g.text? ∧ g.pending < f.pending ∧
      g.size ≤ f.held.length + f.rest.length := by
  rcases f.refill_cases wanted with ⟨hrest, hrefill⟩ | ⟨block, rest, hrest, hblock, hrefill⟩
  · -- nothing is left to refill with, so what is held has to be complete
    rw [hrefill, close] at h
    split at h
    · cases h
    · cases h
    · next chars hchars hheld =>
      cases h
      have hne : f.held ≠ [] := by
        intro hnil
        rw [hnil] at hheld
        exact hchars (Option.some.inj hheld).symm
      have hdecoded := Utf8.length_le_of_decode hheld
      have hunified := length_unifyLineEnds_le chars
      refine ⟨?_, ?_, ?_⟩
      · rw [hrest, List.append_nil, hheld]
        simp [text?, Utf8.decode, unifyLineEnds]
      · simp [pending, hrest, hne]
      · simp only [size, hrest, List.length_nil]
        omega
  · -- a block is taken in, and every byte of it is decoded or held
    rw [hrefill, Except.map_eq_ok_iff] at h
    obtain ⟨filled, hadd, heq⟩ := h
    obtain rfl := Option.some.inj heq
    rw [add] at hadd
    split at hadd
    · cases hadd
    · next chars held hchars =>
      cases hadd
      have hlength := length_le_of_decodeBlock hchars
      have hpos := List.length_pos_iff.mpr hblock
      rw [List.length_append] at hlength
      refine ⟨?_, ?_, ?_⟩
      · rw [hrest, ← List.append_assoc]
        exact map_decode_of_decodeBlock hchars rest
      · simp only [pending, hrest, List.length_append, List.append_eq_nil_iff, hblock, false_and,
          if_false]
        split <;> omega
      · simp only [size, hrest, List.length_append]
        omega

/-- What is had of a feed when so many characters are wanted. -/
structure Delivers (f : Feed) (wanted : Nat) (chars : List Char) (g : Feed) : Prop where
  /-- the characters are the beginning of its text -/
  text?_eq : f.text? = g.text?.map (chars ++ ·)
  /-- they are taken from what is to come -/
  size_le : chars.length + g.size ≤ f.size
  /-- there are fewer only at the end -/
  atEnd : chars.length < wanted → g.text? = some []

/-- Of a feed that has enough characters ready, they are taken. -/
theorem delivers_ready (h : (f.ready.take wanted).length = wanted) :
    f.Delivers wanted (f.ready.take wanted) { f with ready := f.ready.drop wanted } where
  text?_eq := by
    simp only [text?, Option.map_map]
    refine congrArg (Option.map · _) (funext fun text => ?_)
    simp only [Function.comp_apply]
    rw [← List.append_assoc, List.take_append_drop]
  size_le := by
    simp only [size, List.length_take, List.length_drop]
    omega
  atEnd hlt := absurd h (Nat.ne_of_lt hlt)

/-- A feed at the end gives what it has ready. -/
theorem delivers_last (h : Utf8.decode (f.held ++ f.rest) = some []) :
    f.Delivers wanted f.ready { f with ready := [] } where
  text?_eq := by simp [text?, h]
  size_le := by
    simp only [size, List.length_nil]
    omega
  atEnd _ := by simp [text?, h, unifyLineEnds]

/-- A feed that is filled up gives what it has ready and then what the block brings. -/
theorem Delivers.of_filled {chars : List Char} {last : Feed}
    (hdelivers : g.Delivers (wanted - f.ready.length) chars last)
    (htext : (Utf8.decode (f.held ++ f.rest)).map unifyLineEnds = g.text?)
    (hsize : g.size ≤ f.held.length + f.rest.length) :
    f.Delivers wanted (f.ready ++ chars) last where
  text?_eq := by
    -- what was ready comes before what is decoded
    have hready : f.text? = g.text?.map (f.ready ++ ·) := by
      rw [← htext, Option.map_map]
      rfl
    rw [hready, hdelivers.text?_eq, Option.map_map]
    refine congrArg (Option.map · _) (funext fun text => ?_)
    simp only [Function.comp_apply, List.append_assoc]
  size_le := by
    have := hdelivers.size_le
    simp only [size, List.length_append] at this hsize ⊢
    omega
  atEnd hlt := by
    refine hdelivers.atEnd ?_
    rw [List.length_append] at hlt
    omega

/-- Reading fails at what cannot be decoded, and otherwise delivers. -/
theorem read_spec {fuel : Nat} (hfuel : f.pending < fuel) :
    (∀ fault, f.read wanted fuel = .error fault →
      fault = .broken .undecodableBytes ∧ f.text? = none) ∧
    ∀ chars last, f.read wanted fuel = .ok (chars, last) → f.Delivers wanted chars last := by
  induction fuel generalizing f wanted with
  | zero => omega
  | succ fuel ih =>
    rw [read]
    simp only [List.splitAt_eq]
    by_cases henough : (f.ready.take wanted).length = wanted
    · rw [if_pos henough]
      refine ⟨nofun, ?_⟩
      rintro _ _ ⟨⟩
      exact delivers_ready henough
    · rw [if_neg henough]
      -- all that is ready is taken, and a block has to come
      have hle : f.ready.length ≤ wanted := by
        rw [List.length_take] at henough
        omega
      rw [List.take_of_length_le hle, List.drop_of_length_le hle]
      cases hrefill : refill { f with ready := [] } (wanted - f.ready.length) with
      | error fault =>
        obtain ⟨rfl, hdecode⟩ := refill_eq_error hrefill
        refine ⟨?_, nofun⟩
        rintro _ ⟨⟩
        exact ⟨rfl, Option.map_eq_none_iff.mpr hdecode⟩
      | ok filled =>
        cases filled with
        | none =>
          refine ⟨nofun, ?_⟩
          rintro _ _ ⟨⟩
          exact delivers_last (f := f) (refill_eq_none hrefill)
        | some g =>
          obtain ⟨htext, hpending, hsize⟩ := refill_eq_some hrefill
          have hg : g.pending < fuel := Nat.lt_of_lt_of_le hpending (Nat.le_of_lt_succ hfuel)
          obtain ⟨herror, hok⟩ := @ih g (wanted - f.ready.length) hg
          simp only [Except.ok_bind]
          constructor
          · intro fault hfault
            obtain ⟨rfl, hnone⟩ :=
              herror fault ((Except.bind_eq_error_iff.mp hfault).resolve_right nofun)
            refine ⟨rfl, Option.map_eq_none_iff.mpr ?_⟩
            rw [hnone] at htext
            exact Option.map_eq_none_iff.mp htext
          · intro chars last hread
            obtain ⟨⟨more, rest⟩, hmore, heq⟩ := Except.bind_eq_ok_iff.mp hread
            cases heq
            exact (hok _ _ hmore).of_filled htext hsize

/-- A portion has as many characters as are wanted, unless the file is at its end. -/
theorem portion_spec :
    (∀ fault, f.portion = .error fault → fault = .broken .undecodableBytes ∧ f.text? = none) ∧
    ∀ chars last, f.portion = .ok (chars, last) → f.Delivers portionSize chars last := by
  refine read_spec ?_
  rw [pending]
  split <;> omega

end Feed

/-! ## Sources -/

/-- What a text amounts to that is read in portions. There is no text if the bytes cannot be
decoded. -/
inductive Source.IsOf : Option (List Char) → Source → Prop
  /-- all of it is permitted and can be read -/
  | whole {text : List Char} (h : text.all isPermitted = true) : IsOf (some text) ⟨text, none⟩
  /-- what cannot be decoded is read up to some place before that -/
  | undecodable {chars : List Char} : IsOf none ⟨chars, some (.broken .undecodableBytes)⟩
  /-- what is not permitted is read up to some place before that, if it can be decoded at all -/
  | unprintable {text? : Option (List Char)} {chars : List Char}
    (h : ∀ text ∈ text?, text.all isPermitted = false) :
    IsOf text? ⟨chars, some (.malformed .unprintable)⟩

/-- A text that goes on after permitted characters. -/
theorem Source.IsOf.append {text? : Option (List Char)} {s : Source} (h : s.IsOf text?)
    {chars : List Char} (hchars : chars.all isPermitted = true) :
    Source.IsOf (text?.map (chars ++ ·)) { s with chars := chars ++ s.chars } := by
  cases h with
  | whole h => exact .whole (by rw [List.all_append, hchars, h, Bool.true_and])
  | undecodable => exact .undecodable
  | unprintable h =>
    refine .unprintable fun text htext => ?_
    obtain ⟨rest, hrest, rfl⟩ := Option.map_eq_some_iff.mp htext
    rw [List.all_append, h rest hrest, Bool.and_false]

/-- A text that starts with characters which are not permitted. -/
theorem Source.isOf_of_lookOver {chars : List Char} {fault : Fault}
    (h : Feed.lookOver chars = .error fault) (text? : Option (List Char)) :
    Source.IsOf (text?.map (chars ++ ·)) ⟨[], some fault⟩ := by
  rw [Feed.lookOver] at h
  split at h
  · cases h
  · next hchars =>
    cases h
    refine .unprintable fun text htext => ?_
    obtain ⟨rest, -, rfl⟩ := Option.map_eq_some_iff.mp htext
    rw [List.all_append, Bool.eq_false_iff.mpr hchars, Bool.false_and]

/-- What was looked over is permitted. -/
theorem Feed.all_isPermitted_of_lookOver {chars : List Char} {u : Unit}
    (h : lookOver chars = .ok u) : chars.all isPermitted = true := by
  rw [lookOver] at h
  split at h
  · assumption
  · cases h

/-- What remains of a file is what its text amounts to. -/
theorem Feed.isOf_source {f : Feed} {fuel : Nat} (hfuel : f.size < fuel) :
    (f.source fuel).IsOf f.text? := by
  induction fuel generalizing f with
  | zero => omega
  | succ fuel ih =>
    obtain ⟨herror, hok⟩ := portion_spec (f := f)
    rw [source]
    cases hportion : f.portion with
    | error fault =>
      obtain ⟨rfl, hnone⟩ := herror fault hportion
      rw [hnone]
      exact .undecodable
    | ok delivered =>
      obtain ⟨chars, g⟩ := delivered
      have hdelivers := hok chars g hportion
      rw [hdelivers.text?_eq]
      simp only [Except.ok_bind]
      cases hlook : lookOver chars with
      | error fault => exact Source.isOf_of_lookOver hlook g.text?
      | ok u =>
        have hchars := all_isPermitted_of_lookOver hlook
        simp only [Except.ok_bind]
        split
        · -- the portion is short, so it was the last one
          next hlt =>
          rw [hdelivers.atEnd hlt]
          have hlast : Source.IsOf (some []) ⟨[], none⟩ := .whole rfl
          simpa using hlast.append hchars
        · -- a full portion has a character at least, so the file gets shorter
          next hfull =>
          have hsize := hdelivers.size_le
          have hg : g.size < fuel := by
            rw [portionSize] at hfull
            omega
          exact (ih hg).append hchars

namespace Source

/-- **A file amounts to what its text does**, however its blocks and portions are cut. -/
theorem isOf_ofBytes (file : Bytes) :
    (ofBytes file).IsOf ((Utf8.decode file).map unifyLineEnds) := by
  have htext : (Feed.start file).text? = (Utf8.decode file).map unifyLineEnds := rfl
  rw [← htext, ofBytes]
  obtain ⟨herror, hok⟩ := Feed.portion_spec (f := Feed.start file)
  cases hfirst : (Feed.start file).portion with
  | error fault =>
    obtain ⟨rfl, hnone⟩ := herror fault hfirst
    rw [hnone]
    exact .undecodable
  | ok delivered =>
    obtain ⟨chars, f⟩ := delivered
    have hdelivers := hok chars f hfirst
    obtain ⟨herror, hok⟩ := Feed.portion_spec (f := f)
    rw [hdelivers.text?_eq]
    simp only [Except.ok_bind]
    cases hsecond : f.portion with
    | error fault =>
      obtain ⟨rfl, hnone⟩ := herror fault hsecond
      rw [hnone]
      exact .undecodable
    | ok delivered =>
      obtain ⟨more, g⟩ := delivered
      have hmore := hok more g hsecond
      -- the first two portions are looked over together
      have happend : (g.text?.map (more ++ ·)).map (chars ++ ·) =
          g.text?.map ((chars ++ more) ++ ·) := by
        rw [Option.map_map]
        refine congrArg (Option.map · _) (funext fun text => ?_)
        simp only [Function.comp_apply, List.append_assoc]
      rw [hmore.text?_eq, happend]
      simp only [Except.ok_bind]
      cases hlook : Feed.lookOver (chars ++ more) with
      | error fault => exact isOf_of_lookOver hlook g.text?
      | ok u =>
        have hg : g.size < file.length + 1 := by
          -- the two portions took nothing from the size, which is that of the file
          have hfile : (Feed.start file).size = file.length := by simp [Feed.size, Feed.start]
          have hfirst := hdelivers.size_le
          have hsecond := hmore.size_le
          omega
        exact (Feed.isOf_source hg).append (Feed.all_isPermitted_of_lookOver hlook)

/-- A file with nothing wrong about it is read to its end. -/
theorem ofBytes_of_decode {file : Bytes} {chars : List Char} (h : Utf8.decode file = some chars)
    (hpermitted : chars.all isPermitted = true) : ofBytes file = ⟨unifyLineEnds chars, none⟩ := by
  have hof := isOf_ofBytes file
  rw [h, Option.map_some] at hof
  generalize ofBytes file = s at hof
  cases hof with
  | whole => rfl
  | unprintable hfault =>
    have := hfault _ rfl
    rw [all_isPermitted_unifyLineEnds, hpermitted] at this
    cases this

/-- What stands in the way of reading a file to its end. -/
theorem fault_ofBytes {file : Bytes} {fault : Fault} (h : (ofBytes file).fault = some fault) :
    fault = .broken .undecodableBytes ∧ Utf8.decode file = none ∨
    fault = .malformed .unprintable ∧
      ∀ chars, Utf8.decode file = some chars → chars.all isPermitted = false := by
  have hof := isOf_ofBytes file
  generalize ofBytes file = s at hof h
  generalize htext : (Utf8.decode file).map unifyLineEnds = text? at hof
  cases hof with
  | whole => cases h
  | undecodable => exact .inl ⟨(Option.some.inj h).symm, Option.map_eq_none_iff.mp htext⟩
  | unprintable hfault =>
    refine .inr ⟨(Option.some.inj h).symm, fun chars hchars => ?_⟩
    rw [hchars, Option.map_some] at htext
    rw [← all_isPermitted_unifyLineEnds]
    exact hfault _ htext.symm

end Source

end JenkinsAdmission.Yaml
