import JenkinsAdmission.Unicode.LowerCase

/-!
# Lower case and ASCII

A text is often compared with a word of ASCII after it was put into lower case. Which texts match?
Lower case in the sense of Unicode changes far more than the letters of ASCII, and two code points
beyond ASCII have a lower-case form that starts with a letter of ASCII: the Kelvin sign becomes a
`k`, and the capital I with a dot above becomes an `i` with a combining dot behind it.

`Text.prefix_lower_iff` says that this makes no difference for a word that has no `k` and does not
end in `i`: a text starts with it in lower case if and only if it does so up to the case of ASCII
letters.
-/

namespace JenkinsAdmission

namespace CodePoint

variable {c : CodePoint}

/-- The lower-case form of a capital letter of ASCII. Every other code point stays as it is. -/
def asciiLower (c : CodePoint) : CodePoint :=
  if 0x41 ≤ c.code ∧ c.code ≤ 0x5A then ofNat (c.code + 0x20) else c

/-- A code point is determined by its number. -/
theorem ofNat_code (c : CodePoint) : ofNat c.code = c := by
  cases c with
  | scalar c =>
    have hvalid : (scalar c).code.isValidChar := c.valid
    rw [ofNat, ofNat?, dif_pos hvalid, Option.getD_some]
    exact congrArg scalar (Char.ext (UInt32.ofNat_toNat ..))
  | surrogate s =>
    have hinvalid : ¬(surrogate s).code.isValidChar := by
      simp only [Nat.isValidChar, code]
      omega
    have hrange : 0xD800 ≤ (surrogate s).code ∧ (surrogate s).code < 0xE000 := by
      simp only [code]
      omega
    rw [ofNat, ofNat?, dif_neg hinvalid, dif_pos hrange, Option.getD_some]
    exact congrArg surrogate (Fin.ext (Nat.add_sub_cancel_left ..))

/-- A number beyond ASCII names no code point of ASCII, whether it names one or not. -/
theorem le_code_ofNat {n : Nat} (h : 0x80 ≤ n) : 0x80 ≤ (ofNat n).code := by
  unfold ofNat ofNat?
  split
  · rename_i hvalid
    have hlt : n < 2 ^ 32 := by
      rcases hvalid with hvalid | hvalid <;> omega
    have hcode : n.toUInt32.toNat = n := Nat.mod_eq_of_lt hlt
    exact Nat.le_trans h (Nat.le_of_eq hcode.symm)
  · split
    · simp only [Option.getD_some, code]
      omega
    · decide

/-- Every lower-case form of its own within ASCII is that of a capital letter of ASCII. -/
theorem lower_of_isAscii (h : c.isAscii = true) : c.lower = [c.asciiLower] := by
  have hall : ∀ n < 0x80, (ofNat n).lower = [(ofNat n).asciiLower] := by
    decide +kernel
  have hcode : c.code < 0x80 := of_decide_eq_true h
  simpa only [ofNat_code] using hall c.code hcode

theorem asciiLower_of_not_isAscii (h : c.isAscii = false) : c.asciiLower = c := by
  have hcode : ¬c.code < 0x80 := of_decide_eq_false h
  rw [asciiLower, if_neg (by omega)]

/-- What the lower-case form of a code point beyond ASCII starts with. -/
theorem lower_of_not_isAscii (h : c.isAscii = false) :
    c.lower = [.scalar 'i', .scalar '\u0307'] ∨ c.lower = [.scalar 'k'] ∨
      ∃ d, c.lower = [d] ∧ d.isAscii = false := by
  -- a run that starts beyond ASCII stays there, and one of them is made of the Kelvin sign alone
  have hruns : ∀ r ∈ lowerRuns, r.last < 0x80 ∨ 0x80 ≤ r.image ∨
      r.first = 0x212A ∧ r.last = 0x212A ∧ r.image = 0x6B := by
    decide +kernel
  have hcode : ¬c.code < 0x80 := of_decide_eq_false h
  unfold lower
  split
  · exact .inl rfl
  · split
    · rename_i r hfind
      have hin := List.find?_some hfind
      simp only [Bool.and_eq_true, decide_eq_true_eq] at hin
      rcases hruns r (List.mem_of_find?_eq_some hfind) with hlast | himage | ⟨hfirst, hlast, himage⟩
      · omega
      · refine .inr (.inr ⟨_, rfl, decide_eq_false ?_⟩)
        have := le_code_ofNat (n := r.image + (c.code - r.first)) (by omega)
        omega
      · have hkelvin : r.image + (c.code - r.first) = 0x6B := by omega
        rw [hkelvin]
        exact .inr (.inl (by decide))
    · exact .inr (.inr ⟨c, rfl, h⟩)

end CodePoint

namespace Text

/-- A text starts, up to the case of ASCII letters, with a word. -/
def StartsUpToCase (word t : Text) : Prop :=
  word <+: t.map CodePoint.asciiLower

/-- A word of ASCII that no lower-case form from beyond ASCII can supply. -/
structure IsCaseSafe (word : Text) : Prop where
  /-- it is made of ASCII -/
  ascii : ∀ a ∈ word, a.isAscii = true
  /-- it has no `k` -/
  noKelvin : CodePoint.scalar 'k' ∉ word
  /-- it does not end in `i` -/
  noDotted : word.getLast? ≠ some (.scalar 'i')

/-- What is safe about a word is safe about its rest. -/
theorem IsCaseSafe.tail {a : CodePoint} {word : Text} (h : IsCaseSafe (a :: word)) :
    IsCaseSafe word where
  ascii := fun b hb => h.ascii b (List.mem_cons_of_mem a hb)
  noKelvin := fun hk => h.noKelvin (List.mem_cons_of_mem a hk)
  noDotted := fun hi => h.noDotted (by rw [List.getLast?_cons, hi]; rfl)

/-- What starts with a code point beyond ASCII does not match, even though its lower-case form may
have a letter of ASCII in front. -/
theorem not_prefix_lower_cons {a c : CodePoint} {word : Text} (h : IsCaseSafe (a :: word))
    (hc : c.isAscii = false) (t : Text) : ¬a :: word <+: c.lower ++ t := by
  have ha : a.isAscii = true := h.ascii a (List.mem_cons_self ..)
  rcases CodePoint.lower_of_not_isAscii hc with hlower | hlower | ⟨d, hlower, hd⟩
  · rw [hlower, List.cons_append, List.cons_prefix_cons]
    rintro ⟨rfl, hword⟩
    cases word with
    | nil => exact h.noDotted rfl
    | cons b word =>
      obtain ⟨rfl, -⟩ := List.cons_prefix_cons.mp hword
      have hb := h.tail.ascii _ (List.mem_cons_self ..)
      cases hb
  · rw [hlower, List.singleton_append, List.cons_prefix_cons]
    rintro ⟨rfl, -⟩
    exact h.noKelvin (List.mem_cons_self ..)
  · rw [hlower, List.singleton_append, List.cons_prefix_cons]
    rintro ⟨rfl, -⟩
    rw [ha] at hd
    cases hd

/-- In lower case a text starts with the same words as up to the case of ASCII letters. -/
theorem prefix_lower_iff {word : Text} (h : IsCaseSafe word) (t : Text) :
    word <+: t.lower ↔ StartsUpToCase word t := by
  unfold StartsUpToCase
  induction word generalizing t with
  | nil => simp
  | cons a word ih =>
    cases t with
    | nil => simp [lower]
    | cons c t =>
      rw [lower, List.flatMap_cons, ← lower, List.map_cons, List.cons_prefix_cons]
      cases hc : c.isAscii with
      | true =>
        rw [CodePoint.lower_of_isAscii hc, List.singleton_append, List.cons_prefix_cons]
        exact and_congr_right fun _ => ih h.tail t
      -- no character outside ASCII has a lower case that starts the word
      | false =>
        refine iff_of_false (not_prefix_lower_cons h hc (lower t)) ?_
        rintro ⟨rfl, -⟩
        rw [CodePoint.asciiLower_of_not_isAscii hc] at h
        have ha := h.ascii c (List.mem_cons_self ..)
        rw [hc] at ha
        cases ha

/-- The lower-case form of a text of ASCII. -/
theorem lower_of_isAscii {t : Text} (h : ∀ c ∈ t, c.isAscii = true) :
    t.lower = t.map CodePoint.asciiLower := by
  induction t with
  | nil => rfl
  | cons c t ih =>
    obtain ⟨hc, ht⟩ := List.forall_mem_cons.mp h
    rw [lower, List.flatMap_cons, ← lower, ih ht, CodePoint.lower_of_isAscii hc]
    rfl

end Text

end JenkinsAdmission
