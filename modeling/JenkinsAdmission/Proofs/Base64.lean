import JenkinsAdmission.Base64
import JenkinsAdmission.Proofs.Outcome
import Mathlib.Tactic.Common

/-!
# Base64 there and back

What the reader makes of what the writer wrote.

* `Base64.alphabet` is the alphabet of the written form, with the padding.
* `Base64.Reader.Within` places a reader **within a group** of four characters. A group is followed
  byte by byte: each byte is complete with the character that brings its last bits.
* `Base64.decode_encode` says that strict reading undoes writing, and `Base64.decodeText_encode`
  that it does so when the written form is kept as a text.
-/

namespace JenkinsAdmission.Base64

/-! ## The written form -/

/-- The characters of the written form. -/
def alphabet : Bytes :=
  Bytes.ofString "ABCDEFGHIJKLMNOPQRSTUVWXYZabcdefghijklmnopqrstuvwxyz0123456789+/="

variable {n : Nat}

/-- The reader gives a symbol its value back. -/
theorem digit?_symbol (h : n < 64) : digit? (symbol n) = some n := by
  have hall : ∀ k : Fin 64, digit? (symbol k) = some k.val := by
    decide
  exact hall ⟨n, h⟩

theorem symbol_ne_pad (h : n < 64) : symbol n ≠ pad := by
  have hall : ∀ k : Fin 64, symbol k ≠ pad := by
    decide
  exact hall ⟨n, h⟩

theorem symbol_mem_alphabet (h : n < 64) : symbol n ∈ alphabet := by
  have hall : ∀ k : Fin 64, symbol k ∈ alphabet := by
    decide +kernel
  exact hall ⟨n, h⟩

/-- Only symbols and padding are ever written. -/
theorem mem_alphabet_of_mem_encode {b : Bytes} {x : UInt8} (h : x ∈ encode b) : x ∈ alphabet := by
  have hpad : pad ∈ alphabet := by
    decide
  -- by groups of three bytes, and then by what is left of one
  fun_induction encode b with
  | case1 a b c rest ih =>
    have ha := a.toNat_lt
    have hb := b.toNat_lt
    have hc := c.toNat_lt
    simp only [List.mem_cons] at h
    rcases h with rfl | rfl | rfl | rfl | h
    · exact symbol_mem_alphabet (by omega)
    · exact symbol_mem_alphabet (by omega)
    · exact symbol_mem_alphabet (by omega)
    · exact symbol_mem_alphabet (by omega)
    · exact ih h
  | case2 a b =>
    have ha := a.toNat_lt
    have hb := b.toNat_lt
    simp only [List.mem_cons, List.not_mem_nil, or_false] at h
    rcases h with rfl | rfl | rfl | rfl
    · exact symbol_mem_alphabet (by omega)
    · exact symbol_mem_alphabet (by omega)
    · exact symbol_mem_alphabet (by omega)
    · exact hpad
  | case3 a =>
    have ha := a.toNat_lt
    simp only [List.mem_cons, List.not_mem_nil, or_false] at h
    rcases h with rfl | rfl | rfl | rfl
    · exact symbol_mem_alphabet (by omega)
    · exact symbol_mem_alphabet (by omega)
    · exact hpad
    · exact hpad
  | case4 => cases h

/-! ## The reader on a group -/

/-- A byte is the byte of its number. -/
theorem ofNat_eq {a : UInt8} (h : n = a.toNat) : UInt8.ofNat n = a := by
  rw [h, UInt8.ofNat_toNat]

namespace Reader

/-- A reader that has seen no padding, at a place of a group with some bits at hand. -/
structure Within (r : Reader) (quad held : Nat) : Prop where
  /-- the place in the group -/
  quad_eq : r.quad = quad
  /-- the bits that fill no byte yet -/
  held_eq : r.held = held
  /-- no padding counts -/
  pads_eq : r.pads = 0
  /-- no padding was seen -/
  padded_eq : r.padded = false

/-- The bits at hand after a character at a place of a group. -/
def leftOver (quad v : Nat) : Nat :=
  match quad with
  | 0 => v
  | 1 => v % 16
  | 2 => v % 4
  | _ => 0

variable {r : Reader} {quad held v : Nat}

/-- The reader starts with a group of which it has seen nothing. -/
theorem within_start : start.Within 0 0 :=
  ⟨rfl, rfl, rfl, rfl⟩

/-- A symbol takes the reader one place further in its group. -/
theorem Within.push (h : r.Within quad held) (v : Nat) :
    (r.push v).Within ((quad + 1) % 4) (leftOver quad v) := by
  have hquad : (r.count + 1) % 4 = (quad + 1) % 4 := by
    have hcount : r.count % 4 = quad := h.quad_eq
    omega
  refine ⟨hquad, ?_, rfl, h.padded_eq⟩
  rw [← h.quad_eq]
  rfl

/-- A symbol inside a group is read as the byte that it completes, if it completes one. -/
theorem Within.read_symbol (h : r.Within quad held) (hv : v < 64) (rest : Bytes) :
    r.read true (symbol v :: rest) = ((r.push v).read true rest).map (r.byte? v ++ ·) := by
  rw [read, if_neg (symbol_ne_pad hv), digit?_symbol hv]
  simp [h.padded_eq]

/-- The first byte of a group, with the high bits of the second one. -/
theorem Within.read_first (h : r.Within 0 held) (a : UInt8) {high : Nat} (hhigh : high < 16)
    (rest : Bytes) : ∃ s : Reader, s.Within 2 high ∧
      r.read true (symbol (a.toNat / 4) :: symbol (a.toNat % 4 * 16 + high) :: rest) =
        (s.read true rest).map (a :: ·) := by
  have ha := a.toNat_lt
  -- the byte is complete with the second character, which leaves the high bits of the next byte
  have h1 : (r.push (a.toNat / 4)).Within 1 (a.toNat / 4) := h.push _
  have h2 := h1.push (a.toNat % 4 * 16 + high)
  have hbyte : UInt8.ofNat (a.toNat / 4 * 4 + (a.toNat % 4 * 16 + high) / 16) = a :=
    ofNat_eq (by omega)
  have hleft : leftOver 1 (a.toNat % 4 * 16 + high) = high := by
    simp only [leftOver]
    omega
  refine ⟨_, hleft ▸ h2, ?_⟩
  rw [h.read_symbol (by omega), h1.read_symbol (by omega), byte?, h.quad_eq, byte?, h1.quad_eq,
    h1.held_eq, hbyte]
  cases read true ((r.push (a.toNat / 4)).push (a.toNat % 4 * 16 + high)) rest <;> rfl

/-- The second byte of a group, with the high bits of the third one. -/
theorem Within.read_second (b : UInt8) (h : r.Within 2 (b.toNat / 16)) {high : Nat}
    (hhigh : high < 4) (rest : Bytes) : ∃ s : Reader, s.Within 3 high ∧
      r.read true (symbol (b.toNat % 16 * 4 + high) :: rest) =
        (s.read true rest).map (b :: ·) := by
  have h3 := h.push (b.toNat % 16 * 4 + high)
  have hbyte : UInt8.ofNat (b.toNat / 16 * 16 + (b.toNat % 16 * 4 + high) / 4) = b :=
    ofNat_eq (by omega)
  have hleft : leftOver 2 (b.toNat % 16 * 4 + high) = high := by
    simp only [leftOver]
    omega
  refine ⟨_, hleft ▸ h3, ?_⟩
  rw [h.read_symbol (by omega), byte?, h.quad_eq, h.held_eq, hbyte]
  rfl

/-- The third byte of a group. -/
theorem Within.read_third (c : UInt8) (h : r.Within 3 (c.toNat / 64)) (rest : Bytes) :
    ∃ s : Reader, s.Within 0 0 ∧
      r.read true (symbol (c.toNat % 64) :: rest) = (s.read true rest).map (c :: ·) := by
  have hbyte : UInt8.ofNat (c.toNat / 64 * 64 + c.toNat % 64) = c :=
    ofNat_eq (by omega)
  refine ⟨_, h.push (c.toNat % 64), ?_⟩
  rw [h.read_symbol (by omega), byte?, h.quad_eq, h.held_eq, hbyte]
  rfl

/-! ## The padding of a group -/

/-- After three symbols, one character of padding completes the group. -/
theorem Within.read_pad (h : r.Within 3 held) : r.read true [pad] = .ok [] := by
  have hcomplete : r.complete = true := by
    simp [complete, h.quad_eq, h.pads_eq]
  simp [read, hcomplete]

/-- After two symbols, it takes two of them. -/
theorem Within.read_pad_pad (h : r.Within 2 held) : r.read true [pad, pad] = .ok [] := by
  have hquad : r.skipPad.quad = 2 := h.quad_eq
  have hpads : r.skipPad.pads = 1 := by
    simp [skipPad, h.quad_eq, h.pads_eq]
  have hfirst : r.complete = false := by
    simp [complete, h.quad_eq, h.pads_eq]
  have hsecond : r.skipPad.complete = true := by
    simp [complete, hquad, hpads]
  simp [read, hfirst, hsecond]

/-! ## The whole -/

/-- Whatever was written is read back between two groups. -/
theorem Within.read_encode (h : r.Within 0 held) (b : Bytes) : r.read true (encode b) = .ok b := by
  fun_induction encode b generalizing r held with
  | case1 a b c rest ih =>
    have hb := b.toNat_lt
    -- a byte is complete with the second of the symbols that share it
    have hc := c.toNat_lt
    obtain ⟨r1, h1, hfirst⟩ := h.read_first a (by omega : b.toNat / 16 < 16)
      (symbol (b.toNat % 16 * 4 + c.toNat / 64) :: symbol (c.toNat % 64) :: encode rest)
    obtain ⟨r2, h2, hsecond⟩ := h1.read_second b (by omega : c.toNat / 64 < 4)
      (symbol (c.toNat % 64) :: encode rest)
    obtain ⟨r3, h3, hthird⟩ := h2.read_third c (encode rest)
    rw [hfirst, hsecond, hthird, ih h3]
    rfl
  | case2 a b =>
    have hb := b.toNat_lt
    obtain ⟨r1, h1, hfirst⟩ := h.read_first a (by omega : b.toNat / 16 < 16)
      [symbol (b.toNat % 16 * 4), pad]
    obtain ⟨r2, h2, hsecond⟩ := h1.read_second b (by omega : 0 < 4) [pad]
    rw [Nat.add_zero, h2.read_pad] at hsecond
    rw [hfirst, hsecond]
    rfl
  | case3 a =>
    obtain ⟨r1, h1, hfirst⟩ := h.read_first a (by omega : 0 < 16) [pad, pad]
    rw [Nat.add_zero, h1.read_pad_pad] at hfirst
    exact hfirst
  | case4 => simp [read, finish, h.quad_eq]

end Reader

/-- Strict reading undoes writing. -/
theorem decode_encode (b : Bytes) : decode (encode b) = .ok b := by
  have hhead : (encode b).head? ≠ some pad := by
    fun_cases encode b with
    | case1 a b c rest => simpa using symbol_ne_pad (by have := a.toNat_lt; omega)
    | case2 a b => simpa using symbol_ne_pad (by have := a.toNat_lt; omega)
    | case3 a => simpa using symbol_ne_pad (by have := a.toNat_lt; omega)
    | case4 => simp
  rw [decode, if_neg hhead]
  exact Reader.within_start.read_encode b

/-! ## Texts of ASCII characters -/

/-- A text that is made of ASCII bytes is made of these bytes. -/
theorem ascii?_ofAscii {b : Bytes} (h : ∀ x ∈ b, x < 0x80) : (Text.ofAscii b).ascii? = some b := by
  have hcode : ∀ n : Fin 128, (CodePoint.ofNat n).code = n := by
    decide
  have hall : ∀ x ∈ b, (CodePoint.ofNat x.toNat).code = x.toNat := fun x hx =>
    hcode ⟨x.toNat, h x hx⟩
  rw [Text.ascii?, Text.ofAscii, if_pos, List.map_map, Option.some.injEq]
  · refine (List.map_congr_left fun x hx => ?_).trans (List.map_id b)
    rw [Function.comp_apply, hall x hx, UInt8.ofNat_toNat, id]
  · simp only [List.all_map, List.all_eq_true, Function.comp_apply, CodePoint.isAscii,
      decide_eq_true_eq]
    intro x hx
    rw [hall x hx]
    exact h x hx

theorem lt_of_mem_alphabet {x : UInt8} (h : x ∈ alphabet) : x < 0x80 := by
  have hall : ∀ x ∈ alphabet, x < 0x80 := by
    decide +kernel
  exact hall x h

/-- The text that stands for some bytes is decoded to them. -/
theorem decodeText_encode (b : Bytes) : decodeText (Text.ofAscii (encode b)) = .ok b := by
  have hascii : ∀ x ∈ encode b, x < 0x80 := fun x hx =>
    lt_of_mem_alphabet (mem_alphabet_of_mem_encode hx)
  rw [decodeText, ascii?_ofAscii hascii]
  exact decode_encode b

end JenkinsAdmission.Base64
