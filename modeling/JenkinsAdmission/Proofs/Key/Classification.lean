import JenkinsAdmission.Key.Verdict
import JenkinsAdmission.Proofs.Key.Consistency
import JenkinsAdmission.Proofs.Key.Selection

/-!
# What kind of defect a key has

Key material goes through three hands. The block is found and its label looked at, the content is
given to a **reader** of private keys, and the numbers of an RSA key are checked.

* `KeyCheck.examine` is the check of key material with an arbitrary reader, which may do anything
  before it answers. The steps of the check itself may fail here: bytes need not be a text, and a
  division may be by zero.
* `KeyCheck.examine_classifies` says which kind of defect is found when, that none of the steps
  fails, and that a reader is not asked about a block with another label.

A reader answers with a `KeyReading`. `keyDefect?` is this check with the reader of the platform,
`Platform.reading`, which may also fail, and then the run breaks down with it.
-/

namespace JenkinsAdmission

/-- The result of a check of key material. -/
structure KeyCheck where
  /-- the kind of the defect, or nothing -/
  failure : Option KeyFailure
  /-- the wording of the defect -/
  reason : Text
  deriving DecidableEq

namespace KeyCheck

/-- A step that fails. -/
inductive Fault
  /-- a label that is no text -/
  | illegibleLabel (label : Bytes)
  /-- a division by zero -/
  | division (fault : RsaNumbers.DivisionByZero)

/-- The result where there is a defect or none. -/
def ofDefect? (defect : Option KeyDefect) : KeyCheck :=
  ⟨defect.map KeyDefect.failure, (defect.map KeyDefect.reason).getD []⟩

/-- The result for a block with another label, which is quoted as a text. -/
def unsupported (label : Bytes) : Except Fault KeyCheck :=
  match Utf8.decode label with
  | none => .error (.illegibleLabel label)
  | some chars =>
    .ok ⟨some .structural, "unsupported PEM block type '" ++ Text.ofChars chars ++ "'"⟩

/-- The result for content as it was read. -/
def judge : KeyReading → Except Fault KeyCheck
  | .unreadable words => .ok (ofDefect? (some (.unparsable words)))
  | .other => .ok (ofDefect? (some .notRsa))
  | .rsa numbers =>
    match numbers.inspect with
    | .error fault => .error (.division fault)
    | .ok defect => .ok (ofDefect? (defect.map .inconsistent))

/-- Check key material with a reader of private keys. -/
def examine {m : Type → Type} [Monad m] (read : Bytes → m KeyReading) (material : Bytes) :
    m (Except Fault KeyCheck) :=
  match Pem.decode? material with
  | none => pure (.ok (ofDefect? (some .undecodable)))
  | some content =>
    if privateKeyLabels.contains content.label then do
      let reading ← read content.der
      pure (judge reading)
    else pure (unsupported content.label)

/-- A reader finds an RSA key in the block of the material. -/
def Holds (read : Bytes → KeyReading) (material : Bytes) (numbers : RsaNumbers) : Prop :=
  ∃ content, Pem.decode? material = some content ∧ content.label ∈ privateKeyLabels ∧
    read content.der = .rsa numbers

/-- A result of the kind that material deserves, for what a reader finds in it. -/
structure Classifies (read : Bytes → KeyReading) (material : Bytes) (check : KeyCheck) :
    Prop where
  /-- material is accepted when it holds consistent numbers -/
  accepted_iff : check.failure = none ↔ ∃ k, Holds read material k ∧ k.defect? = none
  /-- the numbers are at fault when there are some and they are inconsistent -/
  math_iff : check.failure = some .math ↔ ∃ k, Holds read material k ∧ k.defect? ≠ none
  /-- the wrapping is at fault when there are no numbers -/
  structural_iff : check.failure = some .structural ↔ ∀ k, ¬Holds read material k
  /-- a defect has a wording, and only a defect has -/
  reason_iff : check.reason = [] ↔ check.failure = none

end KeyCheck

/-- The reader of private keys of a platform. Where it fails, the run breaks down. -/
def Platform.reading [Platform] (der : Bytes) : Except Breakdown KeyReading :=
  match Platform.readKey? der with
  | none => .error .impossibleKey
  | some reading => .ok reading

/-! ## Labels are texts -/

/-- Bytes of ASCII are decoded one by one. -/
theorem Utf8.decode_of_ascii {b : Bytes} (h : ∀ x ∈ b, x < 0x80) :
    Utf8.decode b = some (b.map fun x => Char.ofNat x.toNat) := by
  induction b with
  | nil => rfl
  | cons a b ih =>
    obtain ⟨ha, hb⟩ := List.forall_mem_cons.mp h
    unfold Utf8.decode
    simp only [if_pos ha, ih hb]
    rfl

/-- A label in ASCII is the text of its bytes. -/
theorem Text.ofChars_eq_ofAscii {b : Bytes} (h : ∀ x ∈ b, x < 0x80) :
    Text.ofChars (b.map fun x => Char.ofNat x.toNat) = Text.ofAscii b := by
  have hall : ∀ n : Fin 128, CodePoint.scalar (Char.ofNat n) = CodePoint.ofNat n := by
    decide
  rw [Text.ofChars, Text.ofAscii, List.map_map]
  refine List.map_congr_left fun x hx => ?_
  exact hall ⟨x.toNat, h x hx⟩

/-- The label of a block is made of label bytes. -/
theorem Pem.label_of_decode? {material : Bytes} {content : Pem.Content}
    (h : Pem.decode? material = some content) : ∀ b ∈ content.label, b ∈ Pem.labelAlphabet := by
  cases hblock : Pem.firstBlock? material with
  | none => simp [Pem.decode?, hblock] at h
  | some block =>
    obtain ⟨i, hselected⟩ := Pem.firstBlock?_eq_some_iff.mp hblock
    rw [Pem.decode?_of_selected hselected] at h
    obtain ⟨der, -, rfl⟩ := Option.map_eq_some_iff.mp h
    exact hselected.reads.label_mem

namespace KeyCheck

variable {material : Bytes} {content : Pem.Content}

/-- Quoting the label of a block never fails. -/
theorem unsupported_eq (h : Pem.decode? material = some content) :
    unsupported content.label = .ok (ofDefect? (some (.unsupported content.label))) := by
  have hall : ∀ b ∈ Pem.labelAlphabet, b < 0x80 := by
    decide +kernel
  have hascii : ∀ b ∈ content.label, b < 0x80 := fun b hb => hall b (Pem.label_of_decode? h b hb)
  rw [unsupported, Utf8.decode_of_ascii hascii]
  simp only [Text.ofChars_eq_ofAscii hascii]
  rfl

/-- Checking the numbers never fails. -/
theorem judge_rsa (numbers : RsaNumbers) :
    judge (.rsa numbers) = .ok (ofDefect? (numbers.defect?.map .inconsistent)) := by
  rw [judge, numbers.inspect_eq]

/-- Whatever is wrong with a key, there are words for it. -/
theorem reason_ne_nil (defect : KeyDefect) : defect.reason ≠ [] := by
  cases defect with
  | undecodable => decide
  | unsupported label =>
    have hprefix : Text.ofString "unsupported PEM block type '" ≠ [] := by
      decide
    exact List.append_ne_nil_of_left_ne_nil (List.append_ne_nil_of_left_ne_nil hprefix _) _
  | unparsable words =>
    have hprefix : Text.ofString "failed to parse private key: " ≠ [] := by
      decide
    exact List.append_ne_nil_of_left_ne_nil hprefix _
  | notRsa => decide
  | inconsistent defect => cases defect <;> decide

/-- A reader is not asked about a block with another label. -/
theorem examine_of_unsupported {m : Type → Type} [Monad m] (read : Bytes → m KeyReading)
    (h : Pem.decode? material = some content) (hlabel : content.label ∉ privateKeyLabels) :
    examine read material = pure (.ok (ofDefect? (some (.unsupported content.label)))) := by
  have hcontains : privateKeyLabels.contains content.label = false := by
    simpa using hlabel
  simp only [examine, h, hcontains, Bool.false_eq_true, if_false, unsupported_eq h]

/-- The loader is asked only about a block with a supported label, and its answer decides. -/
theorem examine_of_supported {m : Type → Type} [Monad m] (read : Bytes → m KeyReading)
    (h : Pem.decode? material = some content) (hlabel : content.label ∈ privateKeyLabels) :
    examine read material = read content.der >>= fun reading => pure (judge reading) := by
  simp only [examine, h, List.contains_iff_mem.mpr hlabel, if_true]

theorem judge_eq (reading : KeyReading) : judge reading = .ok (ofDefect? reading.defect?) := by
  cases reading with
  | unreadable | other => rfl
  | rsa numbers => exact judge_rsa numbers

/-- The check of this library is the one with the reader of its platform. -/
theorem examine_reading [Platform] (material : Bytes) :
    examine Platform.reading material =
      (keyDefect? material).map fun defect => .ok (ofDefect? defect) := by
  cases h : Pem.decode? material with
  | none =>
    rw [examine, keyDefect?, h]
    rfl
  | some content =>
    by_cases hlabel : content.label ∈ privateKeyLabels
    · rw [examine_of_supported _ h hlabel, keyDefect?_of_supported h hlabel, contentDefect?,
        Platform.reading]
      cases Platform.readKey? content.der with
      | none => rfl
      | some reading => exact congrArg Except.ok (judge_eq reading)
    · rw [examine_of_unsupported _ h hlabel, keyDefect?_of_unsupported h hlabel]
      rfl

/-! ## The kinds of defects -/

variable {read : Bytes → KeyReading} {numbers : RsaNumbers}

/-- A material holds the numbers of one key at most. -/
theorem Holds.unique {others : RsaNumbers} (h : Holds read material numbers)
    (h' : Holds read material others) : numbers = others := by
  obtain ⟨content, hcontent, -, hread⟩ := h
  obtain ⟨content', hcontent', -, hread'⟩ := h'
  obtain rfl := Option.some.inj (hcontent.symm.trans hcontent')
  exact KeyReading.rsa.inj (hread.symm.trans hread')

/-- Where there is no block, there are no numbers. -/
theorem not_holds_of_undecodable (h : Pem.decode? material = none) (k : RsaNumbers) :
    ¬Holds read material k := by
  rintro ⟨content, hcontent, -⟩
  rw [h] at hcontent
  cases hcontent

theorem holds_iff (h : Pem.decode? material = some content) {k : RsaNumbers} :
    Holds read material k ↔ content.label ∈ privateKeyLabels ∧ read content.der = .rsa k := by
  simp only [Holds, h, Option.some.injEq, exists_eq_left']

/-- Where no numbers are found, the wrapping is at fault. -/
theorem classifies_of_not_holds (defect : KeyDefect) (hdefect : defect.failure = .structural)
    (h : ∀ k, ¬Holds read material k) :
    Classifies read material (ofDefect? (some defect)) := by
  have hfailure : (ofDefect? (some defect)).failure = some .structural := congrArg some hdefect
  constructor
  · rw [hfailure]
    exact iff_of_false nofun fun ⟨k, hk, _⟩ => h k hk
  · rw [hfailure]
    exact iff_of_false nofun fun ⟨k, hk, _⟩ => h k hk
  · exact iff_of_true hfailure h
  · exact iff_of_false (reason_ne_nil defect) (by rw [hfailure]; nofun)

/-- Where numbers are found, they alone decide. -/
theorem classifies_of_holds (h : Holds read material numbers) :
    Classifies read material (ofDefect? (numbers.defect?.map .inconsistent)) := by
  -- material holds no other numbers, so a statement about some numbers is one about these
  have hall : ∀ p : RsaNumbers → Prop, (∃ k, Holds read material k ∧ p k) ↔ p numbers := by
    intro p
    constructor
    · rintro ⟨k, hk, hp⟩
      rwa [h.unique hk]
    · exact fun hp => ⟨numbers, h, hp⟩
  have hsome : ¬∀ k, ¬Holds read material k := fun hnone => hnone numbers h
  constructor
  · rw [hall fun k => k.defect? = none]
    cases numbers.defect? <;> simp [ofDefect?]
  · rw [hall fun k => k.defect? ≠ none]
    cases numbers.defect? <;> simp [ofDefect?, KeyDefect.failure]
  · refine iff_of_false ?_ hsome
    cases numbers.defect? <;> simp [ofDefect?, KeyDefect.failure]
  · cases numbers.defect? with
    | none => exact iff_of_true rfl rfl
    | some defect => exact iff_of_false (reason_ne_nil (.inconsistent defect)) nofun

/-- Every check of key material has a result, and of the right kind. -/
theorem exists_classifies (read : Bytes → KeyReading) (material : Bytes) :
    ∃ check, examine (m := Id) read material = .ok check ∧ Classifies read material check := by
  cases h : Pem.decode? material with
  | none =>
    refine ⟨_, ?_, classifies_of_not_holds .undecodable rfl (not_holds_of_undecodable h)⟩
    rw [examine, h]
    rfl
  | some content =>
    by_cases hlabel : content.label ∈ privateKeyLabels
    · rw [examine_of_supported _ h hlabel]
      -- the block is supported, so the loader decides
      cases hread : read content.der with
      | unreadable words =>
        refine ⟨_, rfl, classifies_of_not_holds (.unparsable words) rfl fun k hk => ?_⟩
        simp [holds_iff h, hread] at hk
      | other =>
        refine ⟨_, rfl, classifies_of_not_holds .notRsa rfl fun k hk => ?_⟩
        simp [holds_iff h, hread] at hk
      | rsa numbers =>
        exact ⟨_, judge_rsa numbers, classifies_of_holds ((holds_iff h).mpr ⟨hlabel, hread⟩)⟩
    · exact ⟨_, examine_of_unsupported (m := Id) read h hlabel,
        classifies_of_not_holds (.unsupported content.label) rfl fun k hk =>
          hlabel ((holds_iff h).mp hk).1⟩

/-- **Every piece of key material gets its verdict.** Whatever a reader answers, the check has a
result: acceptance for consistent numbers in a block with the label of a private key, a defect of
the numbers for inconsistent ones there, and a defect of the wrapping, with its wording, for
anything else. A block with another label is refused before any reader is asked. And the check of
this library is this one. -/
theorem examine_classifies [Platform] (material : Bytes) :
    (∀ read : Bytes → KeyReading,
      ∃ check, examine (m := Id) read material = .ok check ∧ Classifies read material check) ∧
    (∀ content, Pem.decode? material = some content → content.label ∉ privateKeyLabels →
      ∀ (m : Type → Type) [Monad m] (read : Bytes → m KeyReading),
        examine read material = pure (.ok (ofDefect? (some (.unsupported content.label))))) ∧
    examine Platform.reading material =
      (keyDefect? material).map fun defect => .ok (ofDefect? defect) :=
  ⟨fun read => exists_classifies read material,
    fun _ hcontent hlabel _ _ read => examine_of_unsupported read hcontent hlabel,
    examine_reading material⟩

end KeyCheck

end JenkinsAdmission
