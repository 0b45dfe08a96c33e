import JenkinsAdmission.Proofs.Key.Consistency
import Mathlib.FieldTheory.Finite.Basic
import Mathlib.Tactic.NormNum.Prime

/-!
# The private operation

What the relations between the numbers of a key are good for: a key that passes the check and whose
primes are prime undoes what it has done.

* `RsaNumbers.encrypt` is the public operation, and `RsaNumbers.decrypt` the private one.
* `RsaNumbers.decryptCrt` is the private operation as it is done in practice: modulo each prime with
  the exponent that is reduced for it, and the two results put together by the coefficient.
* `RsaNumbers.decryptCrt_encrypt` says that both give the message back.

Whether a prime is prime is the one thing that the check does not test.
-/

namespace JenkinsAdmission

namespace RsaNumbers

/-- The public operation on a message. -/
def encrypt (k : RsaNumbers) (m : Int) : Int :=
  m ^ k.publicExponent.toNat % k.modulus

/-- The private operation on a cipher. -/
def decrypt (k : RsaNumbers) (c : Int) : Int :=
  c ^ k.privateExponent.toNat % k.modulus

/-- The private operation on a cipher, modulo one prime and then the other. -/
def decryptCrt (k : RsaNumbers) (c : Int) : Int :=
  let m1 := c ^ k.exponent1.toNat % k.prime1
  let m2 := c ^ k.exponent2.toNat % k.prime2
  m2 + k.prime2 * (k.coefficient * (m1 - m2) % k.prime1)

/-! ## Powers modulo a prime -/

/-- A number is its own power by an exponent that leaves one modulo one less than the prime. The
number may be divisible by the prime, since the exponent is not zero. -/
theorem pow_modEq_self {p : Int} (hp : Prime p) (hpos : 0 < p) {j : Nat} (hj : 0 < j)
    (hone : (j : Int) ≡ 1 [ZMOD p - 1]) (m : Int) : m ^ j ≡ m [ZMOD p] := by
  lift p to Nat using hpos.le
  have hprime : p.Prime := Nat.prime_iff_prime_int.mpr hp
  have hdvd : p - 1 ∣ j - 1 := by
    have hint : (p : Int) - 1 ∣ (j : Int) - 1 := hone.symm.dvd
    rw [← Nat.cast_one, ← Nat.cast_sub hprime.one_le, ← Nat.cast_sub hj] at hint
    exact Int.natCast_dvd_natCast.mp hint
  have hpow : m ^ j ≡ m ^ 1 [ZMOD p] := Int.ModEq.pow_eq_pow hprime hdvd hj Nat.one_pos m
  rwa [pow_one] at hpow

/-- Exponents that are inverse modulo one less than a prime undo each other modulo the prime, also
when the first power is reduced by a multiple of the prime. -/
theorem pow_emod_pow_modEq {p n e d : Int} (hp : Prime p) (hpos : 0 < p) (hdvd : p ∣ n)
    (he : 0 < e) (hd : 0 < d) (hinverse : d * e ≡ 1 [ZMOD p - 1]) (m : Int) :
    (m ^ e.toNat % n) ^ d.toNat ≡ m [ZMOD p] := by
  have hcast : ((e.toNat * d.toNat : Nat) : Int) = d * e := by
    rw [Nat.cast_mul, Int.toNat_of_nonneg he.le, Int.toNat_of_nonneg hd.le, mul_comm]
  have hexponent : 0 < e.toNat * d.toNat := by
    have : (0 : Int) < d * e := mul_pos hd he
    omega
  calc (m ^ e.toNat % n) ^ d.toNat
      ≡ (m ^ e.toNat) ^ d.toNat [ZMOD p] := ((Int.mod_modEq _ n).of_dvd hdvd).pow _
    _ = m ^ (e.toNat * d.toNat) := (pow_mul m _ _).symm
    _ ≡ m [ZMOD p] := pow_modEq_self hp hpos hexponent (hcast ▸ hinverse) m

/-- A number that leaves one is not divisible. -/
theorem not_dvd_of_modEq_one {a m : Int} (hm : 1 < m) (h : a ≡ 1 [ZMOD m]) : ¬m ∣ a := by
  intro hdvd
  have hone : m ∣ 1 := (dvd_sub_left hdvd).mp h.dvd
  exact absurd (Int.le_of_dvd one_pos hone) (not_le.mpr hm)

/-- A factor of a product that leaves one does not leave zero. -/
theorem emod_pos_of_mul_modEq_one {a b m : Int} (hm : 1 < m) (h : a * b ≡ 1 [ZMOD m]) :
    0 < a % m := by
  have hnonneg : 0 ≤ a % m := Int.emod_nonneg a (by omega)
  have hne : a % m ≠ 0 := by
    intro hzero
    have hdvd : m ∣ a := Int.dvd_of_emod_eq_zero hzero
    exact not_dvd_of_modEq_one hm h (hdvd.mul_right b)
  omega

/-- The second exponent may be reduced modulo one less than the prime, unless the prime is two. -/
theorem pow_emod_pow_reduced_modEq {p n e d : Int} (hp : Prime p) (hlt : 1 < p) (hp2 : p ≠ 2)
    (hdvd : p ∣ n) (he : 0 < e) (hinverse : d * e ≡ 1 [ZMOD p - 1]) (m : Int) :
    (m ^ e.toNat % n) ^ (d % (p - 1)).toNat ≡ m [ZMOD p] := by
  have hpos : 0 < d % (p - 1) := emod_pos_of_mul_modEq_one (by omega) hinverse
  have hreduced : d % (p - 1) * e ≡ 1 [ZMOD p - 1] :=
    ((Int.mod_modEq d (p - 1)).mul_right e).trans hinverse
  exact pow_emod_pow_modEq hp (by omega) hdvd he hpos hreduced m

/-! ## Two moduli -/

/-- A number with an inverse modulo another one has no factor in common with it. -/
theorem coprime_of_mul_modEq_one {p q u : Int} (h : u * q ≡ 1 [ZMOD p]) :
    p.natAbs.Coprime q.natAbs := by
  obtain ⟨t, ht⟩ := h.dvd
  have hcoprime : IsCoprime p q := ⟨t, u, by linarith⟩
  exact Int.isCoprime_iff_gcd_eq_one.mp hcoprime

/-- A number below a modulus is the only one there of its residue. -/
theorem eq_of_modEq_of_lt {a b n : Int} (h : a ≡ b [ZMOD n]) (ha : 0 ≤ a) (han : a < n)
    (hb : 0 ≤ b) (hbn : b < n) : a = b := by
  rw [← Int.emod_eq_of_lt ha han, h.eq, Int.emod_eq_of_lt hb hbn]

/-- A number below the product of two moduli is put together from its residues by an inverse of the
second modulus. -/
theorem recombine_eq {p q u m m1 m2 : Int} (hp : 0 < p) (hinverse : u * q ≡ 1 [ZMOD p])
    (h1 : m1 ≡ m [ZMOD p]) (h2 : m2 ≡ m [ZMOD q]) (hnonneg : 0 ≤ m2) (hlt : m2 < q)
    (hm : 0 ≤ m) (hmlt : m < p * q) :
    m2 + q * (u * (m1 - m2) % p) = m := by
  have hmodp : m2 + q * (u * (m1 - m2) % p) ≡ m [ZMOD p] :=
    calc m2 + q * (u * (m1 - m2) % p)
        ≡ m2 + q * (u * (m1 - m2)) [ZMOD p] := ((Int.mod_modEq _ p).mul_left q).add_left m2
      _ = m2 + u * q * (m1 - m2) := by ring
      _ ≡ m2 + 1 * (m1 - m2) [ZMOD p] := (hinverse.mul_right _).add_left m2
      _ = m1 := by ring
      _ ≡ m [ZMOD p] := h1
  have hmodq : m2 + q * (u * (m1 - m2) % p) ≡ m [ZMOD q] := Int.modEq_add_fac_self.trans h2
  have hmod : m2 + q * (u * (m1 - m2) % p) ≡ m [ZMOD p * q] :=
    (Int.modEq_and_modEq_iff_modEq_mul (coprime_of_mul_modEq_one hinverse)).mp ⟨hmodp, hmodq⟩
  -- the digit in front of `q` is below `p`, so the sum is below the product
  have hdigit : 0 ≤ u * (m1 - m2) % p := Int.emod_nonneg _ hp.ne'
  have hdigitlt : u * (m1 - m2) % p ≤ p - 1 := Int.le_sub_one_of_lt (Int.emod_lt_of_pos _ hp)
  have hq : 0 ≤ q := by omega
  have hlow : 0 ≤ q * (u * (m1 - m2) % p) := mul_nonneg hq hdigit
  have hhigh : q * (u * (m1 - m2) % p) ≤ q * (p - 1) := mul_le_mul_of_nonneg_left hdigitlt hq
  have hproduct : q * (p - 1) = p * q - q := by ring
  exact eq_of_modEq_of_lt hmod (by omega) (by omega) hm hmlt

/-! ## The operations of an accepted key -/

section

variable {k : RsaNumbers}

/-- The two factors differ, since one has an inverse modulo the other. -/
theorem Consistent.prime1_ne_prime2 (h : k.Consistent) : k.prime1 ≠ k.prime2 := by
  intro heq
  have hdvd : k.prime1 ∣ k.coefficient * k.prime2 := heq ▸ Dvd.intro_left _ rfl
  exact not_dvd_of_modEq_one h.one_lt_prime1 h.coefficient_inverse hdvd

/-- The public exponent is positive. -/
theorem Consistent.publicExponent_pos (h : k.Consistent) : 0 < k.publicExponent := by
  have htwo := h.two_le_publicExponent
  omega

/-- The exponent for an odd factor is positive. -/
theorem Consistent.exponent1_pos (h : k.Consistent) (hp2 : k.prime1 ≠ 2) : 0 < k.exponent1 := by
  have hlt := h.one_lt_prime1
  rw [h.exponent1_eq]
  exact emod_pos_of_mul_modEq_one (by omega) h.inverse1

theorem Consistent.exponent2_pos (h : k.Consistent) (hq2 : k.prime2 ≠ 2) : 0 < k.exponent2 := by
  have hlt := h.one_lt_prime2
  rw [h.exponent2_eq]
  exact emod_pos_of_mul_modEq_one (by omega) h.inverse2

theorem Consistent.prime1_dvd (h : k.Consistent) : k.prime1 ∣ k.modulus :=
  Dvd.intro _ h.modulus_eq

theorem Consistent.prime2_dvd (h : k.Consistent) : k.prime2 ∣ k.modulus :=
  Dvd.intro_left _ h.modulus_eq

/-- The private operation modulo one prime and then the other undoes the public one. -/
theorem Consistent.decryptCrt_eq (h : k.Consistent) (hp2 : k.prime1 ≠ 2) (hq2 : k.prime2 ≠ 2)
    (hp : Prime k.prime1) (hq : Prime k.prime2) {m : Int} (hm : 0 ≤ m) (hlt : m < k.modulus) :
    k.decryptCrt (k.encrypt m) = m := by
  have hppos : 0 < k.prime1 := one_pos.trans h.one_lt_prime1
  have hqpos : 0 < k.prime2 := one_pos.trans h.one_lt_prime2
  have h1 : k.encrypt m ^ k.exponent1.toNat ≡ m [ZMOD k.prime1] := by
    rw [h.exponent1_eq]
    exact pow_emod_pow_reduced_modEq hp h.one_lt_prime1 hp2 h.prime1_dvd h.publicExponent_pos
      h.inverse1 m
  have h2 : k.encrypt m ^ k.exponent2.toNat ≡ m [ZMOD k.prime2] := by
    rw [h.exponent2_eq]
    exact pow_emod_pow_reduced_modEq hq h.one_lt_prime2 hq2 h.prime2_dvd h.publicExponent_pos
      h.inverse2 m
  exact recombine_eq hppos h.coefficient_inverse ((Int.mod_modEq _ _).trans h1)
    ((Int.mod_modEq _ _).trans h2) (Int.emod_nonneg _ hqpos.ne') (Int.emod_lt_of_pos _ hqpos) hm
    (h.modulus_eq.symm ▸ hlt)

/-- The private operation undoes the public one. -/
theorem Consistent.decrypt_eq (h : k.Consistent) (hp2 : k.prime1 ≠ 2) (hp : Prime k.prime1)
    (hq : Prime k.prime2) (hd : 0 ≤ k.privateExponent) {m : Int} (hm : 0 ≤ m)
    (hlt : m < k.modulus) : k.decrypt (k.encrypt m) = m := by
  have hppos : 0 < k.prime1 := one_pos.trans h.one_lt_prime1
  have hqpos : 0 < k.prime2 := one_pos.trans h.one_lt_prime2
  -- an exponent of zero would be reduced to zero
  have hdpos : 0 < k.privateExponent := by
    have hreduced := h.exponent1_pos hp2
    rw [h.exponent1_eq] at hreduced
    refine lt_of_le_of_ne hd fun hzero => ?_
    rw [← hzero, Int.zero_emod] at hreduced
    exact lt_irrefl 0 hreduced
  have hmod1 : k.encrypt m ^ k.privateExponent.toNat ≡ m [ZMOD k.prime1] :=
    pow_emod_pow_modEq hp hppos h.prime1_dvd h.publicExponent_pos hdpos h.inverse1 m
  have hmod2 : k.encrypt m ^ k.privateExponent.toNat ≡ m [ZMOD k.prime2] :=
    pow_emod_pow_modEq hq hqpos h.prime2_dvd h.publicExponent_pos hdpos h.inverse2 m
  have hmod : k.encrypt m ^ k.privateExponent.toNat ≡ m [ZMOD k.modulus] := by
    -- the factors are coprime, so the two congruences are one
    have hcoprime := coprime_of_mul_modEq_one h.coefficient_inverse
    rw [← h.modulus_eq]
    exact (Int.modEq_and_modEq_iff_modEq_mul hcoprime).mp ⟨hmod1, hmod2⟩
  rw [decrypt, hmod.eq, Int.emod_eq_of_lt hm hlt]

end

/-- **Accepted numbers with prime primes are a working key.** The primes differ, no exponent of the
operations is zero or negative, and every message below the modulus comes back from its cipher: by
way of the residues, and also by the private exponent, if that is not negative. -/
theorem decryptCrt_encrypt {k : RsaNumbers} (haccepted : k.defect? = none)
    (hp : Prime k.prime1) (hq : Prime k.prime2) :
    k.prime1 ≠ k.prime2 ∧
      (0 < k.publicExponent ∧ 0 < k.exponent1 ∧ 0 < k.exponent2) ∧
      ∀ m, 0 ≤ m → m < k.modulus →
        k.decryptCrt (k.encrypt m) = m ∧
        (0 ≤ k.privateExponent → k.decrypt (k.encrypt m) = m) := by
  obtain ⟨h, hp2, hq2⟩ := defect?_eq_none_iff.mp haccepted
  refine ⟨h.prime1_ne_prime2,
    ⟨h.publicExponent_pos, h.exponent1_pos hp2, h.exponent2_pos hq2⟩, fun m hm hlt => ⟨?_, ?_⟩⟩
  · exact h.decryptCrt_eq hp2 hq2 hp hq hm hlt
  · intro hd
    exact h.decrypt_eq hp2 hp hq hd hm hlt

/-- A message that the first prime divides comes back. -/
theorem decryptCrt_encrypt_oddKey :
    oddKey.defect? = none ∧ Prime oddKey.prime1 ∧ Prime oddKey.prime2 ∧
      (122 : Int) % oddKey.prime1 = 0 ∧
      oddKey.decryptCrt (oddKey.encrypt 122) = 122 ∧ oddKey.decrypt (oddKey.encrypt 122) = 122 := by
  have haccepted : oddKey.defect? = none := by decide
  have hp : Prime oddKey.prime1 := Nat.prime_iff_prime_int.mp (by norm_num)
  have hq : Prime oddKey.prime2 := Nat.prime_iff_prime_int.mp (by norm_num)
  obtain ⟨-, -, hworks⟩ := decryptCrt_encrypt haccepted hp hq
  obtain ⟨hcrt, hplain⟩ := hworks 122 (by decide) (by decide)
  exact ⟨haccepted, hp, hq, by decide, hcrt, hplain (by decide)⟩

end RsaNumbers

end JenkinsAdmission
