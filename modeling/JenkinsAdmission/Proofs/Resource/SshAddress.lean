import JenkinsAdmission.Proofs.FirstOf
import JenkinsAdmission.Proofs.Unicode.AsciiCase
import JenkinsAdmission.Resource.Address
import Mathlib.Data.List.TakeDrop
import Mathlib.Data.List.TakeWhile

/-!
# SSH addresses

Which addresses are reached over SSH? There are two forms: an address names a protocol, as in
`protocol://rest`, or it is of the form `user@host:path`.

* `NamesSsh` and `IsScp` are the two forms, said without a search and without lower case.
* `isSshUrl_iff` says that the two forms are recognised.
* `isSshUrl_recognises` adds that of an address with a protocol the protocol alone decides.
-/

namespace JenkinsAdmission

/-! ## The two forms -/

/-- The protocols that are SSH. -/
def sshProtocols : List Text := ["ssh", "git+ssh", "ssh+git"]

/-- What stands between a protocol and the rest of an address. -/
def protocolMark : Text := "://"

/-- An address starts with one of the protocols, in capital or small letters of ASCII. -/
def NamesSsh (url : Text) : Prop :=
  ∃ protocol ∈ sshProtocols, Text.StartsUpToCase (protocol ++ protocolMark) url

/-- A name of a user or a host. -/
structure IsName (t : Text) : Prop where
  /-- it is not empty -/
  ne_nil : t ≠ []
  /-- it is made of word characters, dots and hyphens -/
  mem : ∀ c ∈ t, c.isWord = true ∨ c = .scalar '.' ∨ c = .scalar '-'

/-- An address of the form `user@host:path`, where the path does not start with two slashes. -/
def IsScp (url : Text) : Prop :=
  ∃ user host path, url = user ++ .scalar '@' :: (host ++ .scalar ':' :: path) ∧ IsName user ∧
    IsName host ∧ ¬Text.ofString "//" <+: path

/-- The letters of ASCII. -/
def letters : Text := "ABCDEFGHIJKLMNOPQRSTUVWXYZabcdefghijklmnopqrstuvwxyz"

/-- What a protocol may be made of after its first letter. -/
def protocolAlphabet : Text := letters ++ "0123456789+-."

/-- A protocol: a letter, followed by letters, digits, plus signs, hyphens and dots. -/
def IsProtocol (t : Text) : Prop :=
  ∃ c rest, t = c :: rest ∧ c ∈ letters ∧ ∀ d ∈ rest, d ∈ protocolAlphabet

/-! ## Addresses with a protocol -/

/-- The schemes are the protocols with their mark. -/
theorem mem_sshSchemes_iff {scheme : Text} :
    scheme ∈ sshSchemes ↔ ∃ protocol ∈ sshProtocols, scheme = protocol ++ protocolMark := by
  have hschemes : sshSchemes = sshProtocols.map (· ++ protocolMark) := rfl
  rw [hschemes, List.mem_map]
  simp only [eq_comm]

/-- No character but those of ASCII is a scheme in another case. -/
theorem isCaseSafe_of_mem {scheme : Text} (h : scheme ∈ sshSchemes) :
    Text.IsCaseSafe scheme where
  ascii := by
    have hall : ∀ scheme ∈ sshSchemes, ∀ a ∈ scheme, a.isAscii = true := by decide
    exact hall scheme h
  noKelvin := by
    have hall : ∀ scheme ∈ sshSchemes, CodePoint.scalar 'k' ∉ scheme := by decide
    exact hall scheme h
  noDotted := by
    have hall : ∀ scheme ∈ sshSchemes, scheme.getLast? ≠ some (.scalar 'i') := by decide
    exact hall scheme h

/-- Lower case finds the same protocols as the letters of ASCII do. -/
theorem any_sshSchemes_iff {url : Text} :
    sshSchemes.any (fun scheme => scheme.isPrefixOf url.lower) = true ↔ NamesSsh url := by
  simp only [List.any_eq_true, List.isPrefixOf_iff_prefix, NamesSsh]
  constructor
  · rintro ⟨scheme, hscheme, hprefix⟩
    have hstarts := (Text.prefix_lower_iff (isCaseSafe_of_mem hscheme) url).mp hprefix
    obtain ⟨protocol, hprotocol, rfl⟩ := mem_sshSchemes_iff.mp hscheme
    exact ⟨protocol, hprotocol, hstarts⟩
  · rintro ⟨protocol, hprotocol, hstarts⟩
    have hscheme := mem_sshSchemes_iff.mpr ⟨protocol, hprotocol, rfl⟩
    exact ⟨_, hscheme, (Text.prefix_lower_iff (isCaseSafe_of_mem hscheme) url).mpr hstarts⟩

/-! ## Addresses of users at hosts -/

theorem isNameCodePoint_iff {c : CodePoint} :
    isNameCodePoint c = true ↔ c.isWord = true ∨ c = .scalar '.' ∨ c = .scalar '-' := by
  simp [isNameCodePoint, or_assoc]

/-- A name ends at the first code point that cannot be part of one. -/
theorem afterName?_eq_some_iff {separator : CodePoint}
    (hseparator : isNameCodePoint separator = false) {t rest : Text} :
    afterName? separator t = some rest ↔ ∃ name, IsName name ∧ t = name ++ separator :: rest := by
  unfold afterName?
  rw [List.span_eq_takeWhile_dropWhile]
  constructor
  · intro h
    have happend := List.takeWhile_append_dropWhile (p := isNameCodePoint) (l := t)
    have hmem : ∀ c ∈ t.takeWhile isNameCodePoint, isNameCodePoint c = true :=
      fun c hc => List.mem_takeWhile_imp hc
    generalize t.takeWhile isNameCodePoint = name at h happend hmem
    generalize t.dropWhile isNameCodePoint = tail at h happend
    split at h
    · cases h
    · -- the name is not empty and the separator follows it
      rename_i a name c tail heq
      obtain ⟨rfl, rfl⟩ := Prod.mk.inj heq
      split at h
      · rename_i hc
        subst hc
        obtain rfl := Option.some.inj h
        exact ⟨a :: name, ⟨List.cons_ne_nil _ _, fun c hc => isNameCodePoint_iff.mp (hmem c hc)⟩,
          happend.symm⟩
      · cases h
    · cases h
  · rintro ⟨name, hname, rfl⟩
    have hmem : ∀ c ∈ name, isNameCodePoint c = true :=
      fun c hc => isNameCodePoint_iff.mpr (hname.mem c hc)
    -- the separator is no part of a name, so the name ends there
    rw [List.takeWhile_append_of_pos hmem, List.dropWhile_append_of_pos hmem,
      List.takeWhile_cons_of_neg (by simp [hseparator]),
      List.dropWhile_cons_of_neg (by simp [hseparator]), List.append_nil]
    obtain ⟨a, name, rfl⟩ := List.exists_cons_of_ne_nil hname.ne_nil
    exact if_pos rfl

theorem isNameCodePoint_at : isNameCodePoint (.scalar '@') = false := by
  decide +kernel

theorem isNameCodePoint_colon : isNameCodePoint (.scalar ':') = false := by
  decide +kernel

/-- The test for a user at a host agrees with the reference. -/
theorem isScpLike_iff {url : Text} : isScpLike url = true ↔ IsScp url := by
  -- two names, each up to its separator
  have hparts : ∀ path, (afterName? (.scalar '@') url).bind (afterName? (.scalar ':')) = some path ↔
      ∃ user host, IsName user ∧ IsName host ∧
        url = user ++ .scalar '@' :: (host ++ .scalar ':' :: path) := by
    intro path
    simp only [Option.bind_eq_some_iff, afterName?_eq_some_iff isNameCodePoint_at,
      afterName?_eq_some_iff isNameCodePoint_colon]
    constructor
    · rintro ⟨_, ⟨user, huser, rfl⟩, host, hhost, rfl⟩
      exact ⟨user, host, huser, hhost, rfl⟩
    · rintro ⟨user, host, huser, hhost, rfl⟩
      exact ⟨_, ⟨user, huser, rfl⟩, host, hhost, rfl⟩
  unfold isScpLike
  constructor
  · intro h
    split at h
    · rename_i path hpath
      obtain ⟨user, host, huser, hhost, hurl⟩ := (hparts path).mp hpath
      rw [Bool.not_eq_true', ← Bool.not_eq_true, List.isPrefixOf_iff_prefix] at h
      exact ⟨user, host, path, hurl, huser, hhost, h⟩
    · cases h
  · rintro ⟨user, host, path, hurl, huser, hhost, hpath⟩
    rw [(hparts path).mpr ⟨user, host, huser, hhost, hurl⟩]
    simp only
    rw [Bool.not_eq_true', ← Bool.not_eq_true, List.isPrefixOf_iff_prefix]
    exact hpath

/-! ## Addresses that name a protocol -/

/-- What is known of the code points of a protocol. -/
theorem of_mem_protocol {t : Text} (h : IsProtocol t) {c : CodePoint} (hc : c ∈ t) :
    c.isAscii = true ∧ c ≠ .scalar '@' ∧ c ≠ .scalar ':' ∧ c.asciiLower ≠ .scalar ':' := by
  have hall : ∀ c ∈ protocolAlphabet, c.isAscii = true ∧ c ≠ .scalar '@' ∧ c ≠ .scalar ':' ∧
      c.asciiLower ≠ .scalar ':' := by
    decide +kernel
  obtain ⟨d, rest, rfl, hd, hrest⟩ := h
  rcases List.mem_cons.mp hc with rfl | hc
  · exact hall c (List.mem_append_left _ hd)
  · exact hall c (hrest c hc)

/-- The colon behind a protocol comes before any at sign. -/
theorem not_isScp_of_protocol {t : Text} (h : IsProtocol t) (rest : Text) :
    ¬IsScp (t ++ protocolMark ++ rest) := by
  rintro ⟨user, host, path, hurl, huser, -, -⟩
  have hsplit : t ++ .scalar ':' :: (.scalar '/' :: .scalar '/' :: rest) =
      user ++ .scalar '@' :: (host ++ .scalar ':' :: path) := by
    rw [← hurl, List.append_assoc]
    rfl
  -- the two lists are split at the first of these two marks
  have hmarks := split_unique (P := fun c => c = .scalar ':' ∨ c = .scalar '@') hsplit (.inl rfl)
    (.inr rfl) (fun c hc => ?_) fun c hc => ?_
  · exact absurd hmarks.2.1 (by decide)
  · obtain ⟨-, hat, hcolon, -⟩ := of_mem_protocol h hc
    exact not_or.mpr ⟨hcolon, hat⟩
  · have hname := isNameCodePoint_iff.mpr (huser.mem c hc)
    rintro (rfl | rfl)
    · rw [isNameCodePoint_colon] at hname
      cases hname
    · rw [isNameCodePoint_at] at hname
      cases hname

/-- A text with a protocol in front names SSH if the protocol does. -/
theorem namesSsh_iff_of_protocol {t : Text} (h : IsProtocol t) (rest : Text) :
    NamesSsh (t ++ protocolMark ++ rest) ↔ t.lower ∈ sshProtocols := by
  have hlower : t.lower = t.map CodePoint.asciiLower :=
    Text.lower_of_isAscii fun c hc => (of_mem_protocol h hc).1
  have hmap : (t ++ protocolMark ++ rest).map CodePoint.asciiLower =
      t.lower ++ protocolMark ++ rest.map CodePoint.asciiLower := by
    have hmark : protocolMark.map CodePoint.asciiLower = protocolMark := by decide
    rw [List.map_append, List.map_append, hmark, hlower]
  unfold NamesSsh Text.StartsUpToCase
  rw [hmap]
  constructor
  · -- neither protocol has a colon, so the two splits at the first colon are the same
    rintro ⟨protocol, hprotocol, tail, htail⟩
    have hsplit : protocol ++ .scalar ':' :: (.scalar '/' :: .scalar '/' :: tail) =
        t.lower ++
          .scalar ':' :: (.scalar '/' :: .scalar '/' :: rest.map CodePoint.asciiLower) := by
      rw [List.append_assoc, List.append_assoc] at htail
      exact htail
    have hcolon : ∀ protocol ∈ sshProtocols, ∀ c ∈ protocol, c ≠ .scalar ':' := by decide
    have hcolon' : ∀ c ∈ t.lower, c ≠ .scalar ':' := by
      rw [hlower, List.forall_mem_map]
      exact fun c hc => (of_mem_protocol h hc).2.2.2
    obtain ⟨rfl, -, -⟩ := split_unique (P := (· = .scalar ':')) hsplit rfl rfl
      (hcolon protocol hprotocol) hcolon'
    exact hprotocol
  · intro hprotocol
    exact ⟨t.lower, hprotocol, List.prefix_append _ _⟩

/-! ## The theorem -/

/-- The test is for one of the two forms. -/
theorem isSshUrl_iff {url : Text} : isSshUrl url = true ↔ NamesSsh url ∨ IsScp url := by
  rw [isSshUrl, Bool.or_eq_true, any_sshSchemes_iff, isScpLike_iff]

/-- **The two forms are recognised, and nothing else is.** An address that names a protocol is
reached over SSH exactly if the protocol is one of three, whatever user, host, port or path it
has. -/
theorem isSshUrl_recognises :
    (∀ url, isSshUrl url = true ↔ NamesSsh url ∨ IsScp url) ∧
      ∀ protocol rest, IsProtocol protocol →
        (isSshUrl (protocol ++ protocolMark ++ rest) = true ↔
          protocol.lower ∈ sshProtocols) := by
  refine ⟨fun _ => isSshUrl_iff, fun protocol rest h => ?_⟩
  rw [isSshUrl_iff, namesSsh_iff_of_protocol h]
  exact or_iff_left (not_isScp_of_protocol h rest)

/-- An address with a user and a port is none of SSH if its protocol is not. -/
theorem isSshUrl_recognises_port :
    IsProtocol "HTTPS" ∧
      isSshUrl ("HTTPS" ++ protocolMark ++ "git@github.com:443/org/repo.git") = false ∧
      isSshUrl ("Git+SSH" ++ protocolMark ++ "git@github.com:443/org/repo.git") = true := by
  have hhttps : IsProtocol "HTTPS" := ⟨_, _, rfl, by decide, by decide⟩
  have hssh : IsProtocol "Git+SSH" := ⟨_, _, rfl, by decide, by decide⟩
  refine ⟨hhttps, ?_, ?_⟩
  · rw [← Bool.not_eq_true, isSshUrl_recognises.2 _ _ hhttps]
    decide +kernel
  · rw [isSshUrl_recognises.2 _ _ hssh]
    decide +kernel

end JenkinsAdmission
