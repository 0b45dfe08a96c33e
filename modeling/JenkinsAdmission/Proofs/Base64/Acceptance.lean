import JenkinsAdmission.Proofs.Base64
import Mathlib.Data.List.TakeWhile

/-!
# What strict reading accepts

Padded base64 comes in groups of four characters, and only the last group is padded, with one or two
padding characters. Strict reading should accept this and nothing else.

* `Base64.IsWellFormed` holds of padded base64.
* `Base64.IsOverpadded` holds of full groups with more padding behind them, of any length. A group
  that is full needs no padding, so the reader counts none of it and waits for the end.
* `Base64.Reader.exists_read_data_iff` and `Base64.Reader.exists_read_pads_iff` follow the reader
  over the data and over the padding.
* `Base64.exists_decode_iff` says that strict reading accepts what is well formed or overpadded.
-/

namespace JenkinsAdmission.Base64

/-- A data character. -/
def IsDigit (x : UInt8) : Prop :=
  x ∈ alphabet ∧ x ≠ pad

/-- Padded base64: data characters, then at most two padding characters, in groups of four. -/
def IsWellFormed (b : Bytes) : Prop :=
  ∃ data pads, b = data ++ List.replicate pads pad ∧ (∀ x ∈ data, IsDigit x) ∧ pads ≤ 2 ∧
    4 ∣ b.length

/-- Full groups of data characters, then padding that they do not need. -/
def IsOverpadded (b : Bytes) : Prop :=
  ∃ data pads, b = data ++ List.replicate pads pad ∧ (∀ x ∈ data, IsDigit x) ∧ data ≠ [] ∧
    4 ∣ data.length ∧ 0 < pads

/-! ## Data characters -/

/-- A character with a value is the symbol of its value. -/
theorem symbol_of_digit? {x : UInt8} {v : Nat} (h : digit? x = some v) : v < 64 ∧ symbol v = x := by
  have hall : ∀ k : Fin 256, ∀ v ∈ digit? (UInt8.ofNat k), v < 64 ∧ symbol v = UInt8.ofNat k := by
    decide +kernel
  have hx := hall ⟨x.toNat, x.toNat_lt⟩ v
  rw [UInt8.ofNat_toNat] at hx
  exact hx h

/-- The reader has a value for exactly the data characters. -/
theorem isSome_digit?_iff {x : UInt8} : (digit? x).isSome = true ↔ IsDigit x := by
  have hall : ∀ x ∈ alphabet, x ≠ pad → (digit? x).isSome = true := by
    decide +kernel
  constructor
  · intro h
    obtain ⟨v, hv⟩ := Option.isSome_iff_exists.mp h
    obtain ⟨hlt, rfl⟩ := symbol_of_digit? hv
    exact ⟨symbol_mem_alphabet hlt, symbol_ne_pad hlt⟩
  · rintro ⟨hmem, hne⟩
    exact hall x hmem hne

theorem exists_digit?_of_isDigit {x : UInt8} (h : IsDigit x) : ∃ v, digit? x = some v :=
  Option.isSome_iff_exists.mp (isSome_digit?_iff.mpr h)

theorem not_isDigit_pad : ¬IsDigit pad := fun h => h.2 rfl

/-- Data characters are told from the padding behind them. -/
theorem eq_of_append_replicate {data data' : Bytes} {k l : Nat} (hdata : ∀ x ∈ data, IsDigit x)
    (hdata' : ∀ x ∈ data', IsDigit x)
    (h : data ++ List.replicate k pad = data' ++ List.replicate l pad) : data = data' := by
  have htake : ∀ (d : Bytes) (n : Nat), (∀ x ∈ d, IsDigit x) →
      (d ++ List.replicate n pad).takeWhile (· != pad) = d := by
    intro d n hd
    rw [List.takeWhile_append_of_pos fun x hx => bne_iff_ne.mpr (hd x hx).2]
    cases n <;> simp [List.replicate_succ]
  rw [← htake data k hdata, h, htake data' l hdata']

/-- No string is both well formed and overpadded. -/
theorem not_isOverpadded_of_isWellFormed {b : Bytes} (h : IsWellFormed b) : ¬IsOverpadded b := by
  rintro ⟨data, k, rfl, hdata, -, hfull, hk⟩
  obtain ⟨data', l, heq, hdata', hl, hgroups⟩ := h
  obtain rfl := eq_of_append_replicate hdata hdata' heq
  have hkl : k = l := by simpa using congrArg List.length heq
  simp only [List.length_append, List.length_replicate] at hgroups
  omega

/-! ## The reader over data and over padding -/

namespace Reader

variable {r : Reader} {data b : Bytes} {k : Nat}

/-- A number of padding characters is what a reader can end with: any number after full groups, and
otherwise as many as the group lacks, if it has two characters at least. -/
def EndsAfter (r : Reader) (k : Nat) : Prop :=
  r.quad = 0 ∨ 2 ≤ r.quad ∧ r.quad + r.pads + k = 4

/-- The reader finishes only between two groups. -/
theorem exists_finish_iff : (∃ bytes, r.finish = .ok bytes) ↔ r.quad = 0 := by
  unfold finish
  split
  · next h => simp [h]
  · next h => simp [h]
  · next h _ => exact iff_of_false (by simp) h

/-- A character that is neither data nor padding, or data after padding, ends the reading. -/
theorem read_cons_ne_ok {x : UInt8} (hx : x ≠ pad) (hafter : r.padded = true ∨ ¬IsDigit x)
    (bytes : Bytes) : r.read true (x :: b) ≠ .ok bytes := by
  rw [read, if_neg hx]
  cases hdigit : digit? x with
  | none => simp
  | some v =>
    have hisDigit : IsDigit x := isSome_digit?_iff.mp (by rw [hdigit]; rfl)
    have hpadded : r.padded = true := hafter.resolve_right (not_not_intro hisDigit)
    simp [hpadded]

/-- The padding so far does not complete the group. -/
def IsOpen (r : Reader) : Prop :=
  2 ≤ r.quad → r.quad + r.pads < 4

/-- Where no padding is allowed, the data has to end with a full group. -/
theorem endsAfter_zero_iff (hopen : r.IsOpen) : r.EndsAfter 0 ↔ r.quad = 0 := by
  unfold IsOpen at hopen
  unfold EndsAfter
  omega

/-- One more padding character completes the group, and then there is no more of it. -/
theorem endsAfter_succ_iff_of_complete (hopen : r.IsOpen) (h : r.complete = true) :
    r.EndsAfter (k + 1) ↔ k = 0 := by
  simp only [complete, Bool.and_eq_true, decide_eq_true_eq] at h
  have := hopen h.1
  unfold EndsAfter
  omega

/-- A character of padding that was skipped leaves one less to come. -/
theorem endsAfter_skipPad_iff (h : r.complete = false) :
    r.skipPad.EndsAfter k ↔ r.EndsAfter (k + 1) := by
  have hlacks : ¬2 ≤ r.quad ∨ ¬4 ≤ r.quad + (r.pads + 1) := by
    simpa only [complete, Bool.and_eq_false_iff, decide_eq_false_iff_not] using h
  have hquad : r.skipPad.quad = r.quad := rfl
  have hpads : r.skipPad.pads = if 2 ≤ r.quad then r.pads + 1 else r.pads := rfl
  unfold EndsAfter
  rw [hquad, hpads]
  split <;> omega

theorem isOpen_skipPad (h : r.complete = false) : r.skipPad.IsOpen := by
  intro hquad
  have hquad' : 2 ≤ r.quad := hquad
  have hpads : r.skipPad.pads = r.pads + 1 := if_pos hquad'
  have hsame : r.skipPad.quad = r.quad := rfl
  simp only [complete, Bool.and_eq_false_iff, decide_eq_false_iff_not] at h
  omega

/-- A group that is complete is followed by nothing but its last padding. -/
theorem exists_read_pad_iff_of_complete (h : r.complete = true) :
    (∃ bytes, r.read true (pad :: b) = .ok bytes) ↔ b = [] := by
  rw [read, if_pos rfl, if_pos h]
  cases b <;> simp

theorem read_pad_of_not_complete (h : r.complete = false) :
    r.read true (pad :: b) = r.skipPad.read true b := by
  rw [read, if_pos rfl, h, if_neg Bool.false_ne_true]

/-- One padding character and then a number of them. -/
theorem exists_cons_eq_replicate_iff {p : Nat → Prop} :
    (∃ k, pad :: b = List.replicate k pad ∧ p k) ↔
      ∃ k, b = List.replicate k pad ∧ p (k + 1) := by
  constructor
  · rintro ⟨k, hk, h⟩
    cases k with
    | zero => cases hk
    | succ k => exact ⟨k, (List.cons.inj hk).2, h⟩
  · rintro ⟨k, rfl, h⟩
    exact ⟨k + 1, rfl, h⟩

/-- Behind the data there is only padding, and as much of it as the reader can end with. -/
theorem exists_read_pads_iff (hopen : r.IsOpen)
    (hb : r.padded = true ∨ ∀ x, b.head? = some x → ¬IsDigit x) :
    (∃ bytes, r.read true b = .ok bytes) ↔
      ∃ k, b = List.replicate k pad ∧ r.EndsAfter k := by
  induction b generalizing r with
  | nil =>
    rw [read, exists_finish_iff, ← endsAfter_zero_iff hopen]
    constructor
    · exact fun h => ⟨0, rfl, h⟩
    · rintro ⟨k, hk, h⟩
      obtain rfl : 0 = k := by simpa using congrArg List.length hk
      exact h
  | cons x rest ih =>
    by_cases hx : x = pad
    · subst hx
      rw [exists_cons_eq_replicate_iff]
      -- after a complete group only one more character of padding is looked at
      cases hcomplete : r.complete with
      | true =>
        simp only [exists_read_pad_iff_of_complete hcomplete,
          endsAfter_succ_iff_of_complete hopen hcomplete, exists_eq_right, List.replicate_zero]
      | false =>
        rw [read_pad_of_not_complete hcomplete, ih (isOpen_skipPad hcomplete) (.inl rfl)]
        simp only [endsAfter_skipPad_iff hcomplete]
    · -- the reader does not go on to data behind padding
      refine iff_of_false ?_ ?_
      · rintro ⟨bytes, h⟩
        exact read_cons_ne_ok hx (hb.imp_right fun hb => hb x rfl) bytes h
      · rintro ⟨k, hk, -⟩
        have hmem : x ∈ List.replicate k pad := hk ▸ List.mem_cons_self
        exact hx (List.eq_of_mem_replicate hmem)

/-- Over data the reader only counts. -/
theorem exists_read_data_iff (hpads : r.pads = 0) (hpadded : r.padded = false)
    (hdata : ∀ x ∈ data, IsDigit x) :
    ∃ s : Reader, s.count = r.count + data.length ∧ s.pads = 0 ∧ s.padded = false ∧
      ∀ b, (∃ bytes, r.read true (data ++ b) = .ok bytes) ↔ ∃ bytes, s.read true b = .ok bytes := by
  induction data generalizing r with
  | nil => exact ⟨r, rfl, hpads, hpadded, fun _ => .rfl⟩
  | cons x data ih =>
    obtain ⟨hx, hrest⟩ := List.forall_mem_cons.mp hdata
    obtain ⟨v, hv⟩ := exists_digit?_of_isDigit hx
    obtain ⟨s, hcount, hs, hs', hread⟩ := ih (r := r.push v) rfl hpadded hrest
    refine ⟨s, ?_, hs, hs', fun b => ?_⟩
    · have hpush : (r.push v).count = r.count + 1 := rfl
      rw [hcount, hpush, List.length_cons]
      omega
    · rw [← hread b, List.cons_append, read, if_neg hx.2, hv]
      simp [hpadded, Except.map_eq_ok_iff]

end Reader

/-! ## The whole -/

/-- Data characters and what is behind them: only padding, none without data, and as much as the
last group lacks, or any amount if it lacks nothing. -/
theorem exists_decode_append_iff {data b : Bytes} (hdata : ∀ x ∈ data, IsDigit x)
    (hb : ∀ x, b.head? = some x → ¬IsDigit x) :
    (∃ bytes, decode (data ++ b) = .ok bytes) ↔
      (data = [] → b = []) ∧ ∃ k, b = List.replicate k pad ∧
        (4 ∣ data.length ∨ 2 ≤ data.length % 4 ∧ data.length % 4 + k = 4) := by
  cases data with
  | nil =>
    cases b with
    | nil => exact iff_of_true ⟨[], rfl⟩ ⟨fun _ => rfl, 0, rfl, .inl ⟨0, rfl⟩⟩
    -- padding at the start is refused, and no other character is one of padding
    | cons x rest =>
      refine iff_of_false ?_ (fun h => nomatch h.1 rfl)
      rintro ⟨bytes, h⟩
      rw [List.nil_append, decode] at h
      split at h
      · cases h
      · next hhead =>
        exact Reader.read_cons_ne_ok (fun hx => hhead (hx ▸ rfl)) (.inr (hb x rfl)) bytes h
  | cons x data =>
    have hhead : (x :: data ++ b).head? ≠ some pad := by
      simpa using (hdata x List.mem_cons_self).2
    obtain ⟨s, hcount, hpads, -, hread⟩ :=
      Reader.exists_read_data_iff (r := Reader.start) rfl rfl hdata
    -- the reader has counted the data, which tells how much padding it takes
    have hquad : s.quad = (x :: data).length % 4 := by
      rw [Reader.quad, hcount, Reader.start, Nat.zero_add]
    have hopen : s.IsOpen := by
      unfold Reader.IsOpen
      omega
    rw [decode, if_neg hhead, hread, Reader.exists_read_pads_iff hopen (.inr hb)]
    simp only [Reader.EndsAfter, hquad, hpads, Nat.add_zero, reduceCtorEq, false_imp_iff, true_and,
      Nat.dvd_iff_mod_eq_zero]

/-- Every value begins with data characters, and no more of them come right after. -/
theorem exists_data_append (b : Bytes) :
    ∃ data rest, b = data ++ rest ∧ (∀ x ∈ data, IsDigit x) ∧
      ∀ x, rest.head? = some x → ¬IsDigit x := by
  induction b with
  | nil => exact ⟨[], [], rfl, nofun, nofun⟩
  | cons x b ih =>
    by_cases hx : IsDigit x
    · obtain ⟨data, rest, rfl, hdata, hrest⟩ := ih
      exact ⟨x :: data, rest, rfl, List.forall_mem_cons.mpr ⟨hx, hdata⟩, hrest⟩
    · refine ⟨[], x :: b, rfl, nofun, fun y hy => ?_⟩
      obtain rfl : x = y := Option.some.inj hy
      exact hx

/-- Padding does not begin with data. -/
theorem not_isDigit_of_head?_replicate {k : Nat} {x : UInt8}
    (h : (List.replicate k pad).head? = some x) : ¬IsDigit x := by
  obtain rfl : x = pad := List.eq_of_mem_replicate (List.mem_of_mem_head? h)
  exact not_isDigit_pad

/-- Strict reading accepts padded base64 and overpadded base64, and nothing else. -/
theorem exists_decode_iff {b : Bytes} :
    (∃ bytes, decode b = .ok bytes) ↔ IsWellFormed b ∨ IsOverpadded b := by
  constructor
  · obtain ⟨data, rest, rfl, hdata, hrest⟩ := exists_data_append b
    rw [exists_decode_append_iff hdata hrest]
    rintro ⟨hnil, k, rfl, hk⟩
    rcases Nat.eq_zero_or_pos k with rfl | hpos
    · refine .inl ⟨data, 0, rfl, hdata, by omega, ?_⟩
      simp only [List.length_append, List.length_replicate]
      omega
    · -- a full group has padding that nobody asked for, and another group has the padding that
      -- completes it
      rcases hk with hfull | hk
      · refine .inr ⟨data, k, rfl, hdata, fun h => ?_, hfull, hpos⟩
        have hlength := congrArg List.length (hnil h)
        simp only [List.length_replicate, List.length_nil] at hlength
        omega
      · refine .inl ⟨data, k, rfl, hdata, by omega, ?_⟩
        simp only [List.length_append, List.length_replicate]
        omega
  · rintro (⟨data, k, rfl, hdata, hk, hgroups⟩ | ⟨data, k, rfl, hdata, hne, hfull, -⟩)
    · simp only [List.length_append, List.length_replicate] at hgroups
      refine (exists_decode_append_iff hdata fun _ => not_isDigit_of_head?_replicate).mpr
        ⟨?_, k, rfl, by omega⟩
      -- without data there can be no padding
      rintro rfl
      obtain rfl : k = 0 := by
        simp only [List.length_nil] at hgroups
        omega
      rfl
    · exact (exists_decode_append_iff hdata fun _ => not_isDigit_of_head?_replicate).mpr
        ⟨fun h => absurd h hne, k, rfl, .inl hfull⟩

end JenkinsAdmission.Base64
