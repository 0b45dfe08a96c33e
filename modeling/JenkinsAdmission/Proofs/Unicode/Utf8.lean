import JenkinsAdmission.Unicode.Utf8

/-!
# UTF-8 in blocks

Bytes may be decoded block by block: what `Utf8.decodeComplete` gives for a block and what it holds
back amount to what the whole sequence encodes (`Utf8.decode_append_of_complete`), and where it
gives nothing, nothing that follows makes the sequence decodable
(`Utf8.decode_append_of_incomplete`).
-/

namespace JenkinsAdmission.Utf8

/-- The bytes of one character. -/
structure IsSequence (sequence : Bytes) (c : Char) : Prop where
  /-- there is one at least -/
  ne_nil : sequence ≠ []
  /-- there are four at most -/
  length_le : sequence.length ≤ 4
  /-- they add the character to what follows -/
  decode_append : ∀ rest, decode (sequence ++ rest) = (decode rest).map (c :: ·)
  /-- where some are cut off, more bytes can make a character of the others -/
  isBeginning : ∀ n < sequence.length, isBeginning (sequence.take n) = true

/-- What can be decoded starts with the bytes of a character. -/
theorem exists_isSequence {bytes : Bytes} {chars : List Char} (h : decode bytes = some chars)
    (hne : bytes ≠ []) : ∃ sequence rest c, bytes = sequence ++ rest ∧ IsSequence sequence c := by
  fun_cases decode bytes with
  | case1 => exact absurd rfl hne
  | case2 a rest h1 =>
    refine ⟨[a], rest, assemble a.toNat [], rfl, by simp, by simp, fun rest => ?_, ?_⟩
    · rw [List.cons_append, decode.eq_def]
      simp only [h1, if_true, List.nil_append]
    · intro n hn
      match n, hn with
      | 0, _ => rfl
  | case5 a h1 h2 b rest h3 hb =>
    refine ⟨[a, b], rest, assemble (a.toNat - 0xC0) [b], rfl, by simp, by simp, fun rest => ?_, ?_⟩
    · rw [List.cons_append, decode.eq_def]
      simp only [h1, h2, h3, hb, if_true, if_false, List.nil_append, List.cons_append]
    · intro n hn
      match n, hn with
      | 0, _ => rfl
      | 1, _ => grind [Utf8.isBeginning]
  | case8 a h1 h2 b h3 c rest h4 hbc =>
    refine ⟨[a, b, c], rest, assemble (a.toNat - 0xE0) [b, c], rfl, by simp, by simp,
      fun rest => ?_, ?_⟩
    · rw [List.cons_append, decode.eq_def]
      simp only [h1, h2, h3, h4, hbc, if_true, if_false, List.nil_append, List.cons_append]
    · intro n hn
      match n, hn with
      | 0, _ => rfl
      | 1, _ | 2, _ => grind [Utf8.isBeginning]
  | case11 a h1 h2 b h3 c h4 d rest hbcd =>
    refine ⟨[a, b, c, d], rest, assemble (a.toNat - 0xF0) [b, c, d], rfl, by simp, by simp,
      fun rest => ?_, ?_⟩
    · rw [List.cons_append, decode.eq_def]
      simp only [h1, h2, h3, h4, hbcd, if_true, if_false, List.nil_append, List.cons_append]
    · intro n hn
      match n, hn with
      | 0, _ => rfl
      | 1, _ | 2, _ | 3, _ => grind [Utf8.isBeginning]
  | case3 | case4 | case6 | case7 | case9 | case10 | case12 =>
    -- nothing is decoded in these cases
    unfold decode at h
    simp only [*, if_true, if_false, reduceCtorEq] at h

/-- Induction on what can be decoded, a character at a time. -/
theorem decode_induction {motive : Bytes → Prop} (nil : motive [])
    (append : ∀ sequence rest c, IsSequence sequence c → motive rest → motive (sequence ++ rest))
    {bytes : Bytes} {chars : List Char} (h : decode bytes = some chars) : motive bytes := by
  induction hn : bytes.length using Nat.strongRecOn generalizing bytes chars with
  | _ n ih =>
    by_cases hne : bytes = []
    · rwa [hne]
    obtain ⟨sequence, rest, c, rfl, hseq⟩ := exists_isSequence h hne
    rw [hseq.decode_append] at h
    obtain ⟨others, hrest, -⟩ := Option.map_eq_some_iff.mp h
    have hlt : rest.length < n := by
      have := List.length_pos_iff.mpr hseq.ne_nil
      rw [List.length_append] at hn
      omega
    exact append sequence rest c hseq (ih _ hlt hrest rfl)

/-- Sequences that stand one after the other can be decoded one after the other. -/
theorem decode_append {a : Bytes} {chars : List Char} (h : decode a = some chars) (b : Bytes) :
    decode (a ++ b) = (decode b).map (chars ++ ·) := by
  refine decode_induction (motive := fun a => ∀ chars, decode a = some chars →
    decode (a ++ b) = (decode b).map (chars ++ ·)) ?_ ?_ h chars h
  · intro chars hchars
    obtain rfl := Option.some.inj hchars
    simp
  · intro sequence rest c hseq ih chars hchars
    rw [hseq.decode_append] at hchars
    obtain ⟨others, hrest, rfl⟩ := Option.map_eq_some_iff.mp hchars
    rw [List.append_assoc, hseq.decode_append, ih others hrest, Option.map_map]
    rfl

/-- There are not more characters than bytes. -/
theorem length_le_of_decode {bytes : Bytes} {chars : List Char} (h : decode bytes = some chars) :
    chars.length ≤ bytes.length := by
  refine decode_induction (motive := fun bytes => ∀ chars, decode bytes = some chars →
    chars.length ≤ bytes.length) ?_ ?_ h chars h
  · intro chars hchars
    obtain rfl := Option.some.inj hchars
    exact Nat.le_refl 0
  · intro sequence rest c hseq ih chars hchars
    rw [hseq.decode_append] at hchars
    obtain ⟨others, hrest, rfl⟩ := Option.map_eq_some_iff.mp hchars
    have hothers := ih others hrest
    have := List.length_pos_iff.mpr hseq.ne_nil
    rw [List.length_cons, List.length_append]
    omega

/-- A front of something that can be decoded ends, at most, in bytes that can be completed. -/
theorem exists_isBeginning {block more : Bytes} {chars : List Char}
    (h : decode (block ++ more) = some chars) :
    ∃ whole held, block = whole ++ held ∧ held.length ≤ 3 ∧ isBeginning held = true ∧
      (decode whole).isSome = true := by
  refine decode_induction (motive := fun bytes => ∀ block, bytes = block ++ more →
    ∃ whole held, block = whole ++ held ∧ held.length ≤ 3 ∧ isBeginning held = true ∧
      (decode whole).isSome = true) ?_ ?_ h block rfl
  · intro block hblock
    obtain rfl := (List.append_eq_nil_iff.mp hblock.symm).1
    exact ⟨[], [], rfl, by simp, rfl, rfl⟩
  · intro sequence rest c hseq ih block hsplit
    rcases List.append_eq_append_iff.mp hsplit with ⟨block', rfl, hrest⟩ | ⟨back, rfl, -⟩
    · obtain ⟨whole, held, rfl, hlength, hheld, hwhole⟩ := ih block' hrest
      obtain ⟨chars, hchars⟩ := Option.isSome_iff_exists.mp hwhole
      refine ⟨sequence ++ whole, held, by simp, hlength, hheld, ?_⟩
      rw [hseq.decode_append, hchars]
      rfl
    · by_cases hback : back = []
      · -- the block is the first character
        subst hback
        refine ⟨block ++ [], [], by simp, by simp, rfl, ?_⟩
        rw [← List.append_nil (block ++ []), hseq.decode_append]
        rfl
      · -- the block ends inside of the first character
        have hlt : block.length < (block ++ back).length := by
          have := List.length_pos_iff.mpr hback
          rw [List.length_append]
          omega
        have hbeginning := hseq.isBeginning block.length hlt
        rw [List.take_left] at hbeginning
        have := hseq.length_le
        exact ⟨[], block, by simp, by omega, hbeginning, rfl⟩

/-- What is decoded of a block is its front, and the rest is held back. -/
theorem decodeComplete_eq_some {block held : Bytes} {chars : List Char}
    (h : decodeComplete block = some (chars, held)) :
    ∃ whole, block = whole ++ held ∧ decode whole = some chars := by
  obtain ⟨n, -, hn⟩ := List.exists_of_findSome?_eq_some h
  simp only [List.splitAt_eq] at hn
  split at hn
  · obtain ⟨chars, hwhole, heq⟩ := Option.map_eq_some_iff.mp hn
    obtain ⟨rfl, rfl⟩ := Prod.mk.inj heq
    exact ⟨_, (List.take_append_drop _ _).symm, hwhole⟩
  · cases hn

/-- Of a sequence that starts with a block, the block gives its characters, and what is held back
goes with the rest. -/
theorem decode_append_of_complete {block held : Bytes} {chars : List Char}
    (h : decodeComplete block = some (chars, held)) (more : Bytes) :
    decode (block ++ more) = (decode (held ++ more)).map (chars ++ ·) := by
  obtain ⟨whole, rfl, hwhole⟩ := decodeComplete_eq_some h
  rw [List.append_assoc, decode_append hwhole]

/-- A block has a byte for each of its characters and for each byte held back. -/
theorem length_le_of_complete {block held : Bytes} {chars : List Char}
    (h : decodeComplete block = some (chars, held)) :
    chars.length + held.length ≤ block.length := by
  obtain ⟨whole, rfl, hwhole⟩ := decodeComplete_eq_some h
  have := length_le_of_decode hwhole
  rw [List.length_append]
  omega

/-- Nothing can be decoded that starts with a block which gives nothing. -/
theorem decode_append_of_incomplete {block : Bytes} (h : decodeComplete block = none)
    (more : Bytes) : decode (block ++ more) = none := by
  refine Option.eq_none_iff_forall_ne_some.mpr fun chars hchars => ?_
  obtain ⟨whole, held, rfl, hlength, hheld, hwhole⟩ := exists_isBeginning hchars
  have hmem : held.length ∈ [0, 1, 2, 3] := by
    simp only [List.mem_cons, List.not_mem_nil]
    omega
  have hnone := List.findSome?_eq_none_iff.mp h held.length hmem
  have hlast : (whole ++ held).length - held.length = whole.length := by simp
  simp only [List.splitAt_eq, hlast, List.drop_left, hheld, if_true, List.take_left,
    Option.map_eq_none_iff] at hnone
  rw [hnone] at hwhole
  cases hwhole

end JenkinsAdmission.Utf8
