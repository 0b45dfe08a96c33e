import JenkinsAdmission.Key.Rsa
import Mathlib.Data.Int.ModEq
import Mathlib.Tactic.SplitIfs

/-!
# The consistency of RSA numbers

What the numbers of an RSA key have to do with each other, stated as equations and congruences, and
what the check makes of it.

* `RsaNumbers.Consistent` lists the relations.
* `RsaNumbers.inspect` is the check with **remainders that can fail**: a division by zero has none.
* `RsaNumbers.inspect_decides` says that no division by zero occurs, and that the check lets exactly
  the consistent numbers pass in which neither prime is two.

The exception is due to the number one. The check looks for it as the remainder of the exponents'
product. By one less than the prime two, the only remainder is zero, although every product is
congruent to one there. `RsaNumbers.not_decides_evenKey` is a key that is turned away for this.
-/

namespace JenkinsAdmission

namespace RsaNumbers

/-- The relations between the numbers of a key. -/
structure Consistent (k : RsaNumbers) : Prop where
  /-- the first prime exceeds one -/
  one_lt_prime1 : 1 < k.prime1
  /-- the second prime exceeds one -/
  one_lt_prime2 : 1 < k.prime2
  /-- the modulus is the product of the primes -/
  modulus_eq : k.prime1 * k.prime2 = k.modulus
  /-- the public exponent is two at least -/
  two_le_publicExponent : 2 ≤ k.publicExponent
  /-- the exponents are inverse to each other modulo one less than the first prime -/
  inverse1 : k.privateExponent * k.publicExponent ≡ 1 [ZMOD k.prime1 - 1]
  /-- the exponents are inverse to each other modulo one less than the second prime -/
  inverse2 : k.privateExponent * k.publicExponent ≡ 1 [ZMOD k.prime2 - 1]
  /-- the first reduced exponent is the private exponent reduced -/
  exponent1_eq : k.exponent1 = k.privateExponent % (k.prime1 - 1)
  /-- the second reduced exponent is the private exponent reduced -/
  exponent2_eq : k.exponent2 = k.privateExponent % (k.prime2 - 1)
  /-- the coefficient inverts the second prime modulo the first -/
  coefficient_inverse : k.coefficient * k.prime2 ≡ 1 [ZMOD k.prime1]

/-- The key with the primes 61 and 53. -/
def oddKey : RsaNumbers :=
  ⟨3233, 17, 2753, 61, 53, 53, 49, 38⟩

/-! ## The verdict -/

/-- One is a remainder of every division but the one by one. -/
theorem emod_eq_one_iff {a m : Int} (hm : 0 < m) : a % m = 1 ↔ a ≡ 1 [ZMOD m] ∧ m ≠ 1 := by
  constructor
  · intro h
    have hlt : a % m < m := Int.emod_lt_of_pos a hm
    have hm1 : 1 < m := by omega
    refine ⟨?_, by omega⟩
    rw [Int.ModEq, h, Int.emod_eq_of_lt (by omega) hm1]
  · rintro ⟨h, hm1⟩
    rw [h.eq, Int.emod_eq_of_lt (by omega) (by omega)]

/-- The test on a factor is a congruence, except for the factor 2. -/
theorem invertsModulo_iff {k : RsaNumbers} {p : Int} (hp : 1 < p) :
    k.invertsModulo p = true ↔
      k.privateExponent * k.publicExponent ≡ 1 [ZMOD p - 1] ∧ p ≠ 2 := by
  have hne : p - 1 ≠ 1 ↔ p ≠ 2 := by omega
  rw [invertsModulo, beq_iff_eq, emod_eq_one_iff (by omega), hne]

/-- A test that finds a defect is not passed. -/
theorem ite_some_eq_none_iff {c : Prop} [Decidable c] {defect : RsaDefect}
    {next : Option RsaDefect} :
    (if c then some defect else next) = none ↔ ¬c ∧ next = none := by
  split_ifs with h <;> simp [h]

/-- The numbers that pass are the consistent ones without the prime two. -/
theorem defect?_eq_none_iff {k : RsaNumbers} :
    k.defect? = none ↔ k.Consistent ∧ k.prime1 ≠ 2 ∧ k.prime2 ≠ 2 := by
  simp only [defect?, ite_some_eq_none_iff, not_lt, not_or, not_le, ne_eq, not_not,
    Bool.not_eq_true, Bool.not_eq_false', Bool.and_eq_true, and_true]
  constructor
  · rintro ⟨he, ⟨hp, hq⟩, hn, ⟨hi, hj⟩, ⟨hd, hd'⟩, hc⟩
    obtain ⟨hi, hp2⟩ := (invertsModulo_iff hp).mp hi
    obtain ⟨hj, hq2⟩ := (invertsModulo_iff hq).mp hj
    have hc := (emod_eq_one_iff (by omega)).mp hc
    exact ⟨⟨hp, hq, hn, he, hi, hj, hd, hd', hc.1⟩, hp2, hq2⟩
  · rintro ⟨h, hp2, hq2⟩
    have hp := h.one_lt_prime1
    have hq := h.one_lt_prime2
    refine ⟨h.two_le_publicExponent, ⟨hp, hq⟩, h.modulus_eq, ⟨?_, ?_⟩,
      ⟨h.exponent1_eq, h.exponent2_eq⟩, ?_⟩
    · exact (invertsModulo_iff hp).mpr ⟨h.inverse1, hp2⟩
    · exact (invertsModulo_iff hq).mpr ⟨h.inverse2, hq2⟩
    · exact (emod_eq_one_iff (by omega)).mpr ⟨h.coefficient_inverse, by omega⟩

/-! ## The divisions -/

/-- A division by zero. -/
structure DivisionByZero where
  /-- what was to be divided -/
  dividend : Int
  deriving DecidableEq

/-- The remainder of a division whose quotient is rounded down. It has the sign of the divisor, and
there is none of a division by zero. -/
def remainder (a m : Int) : Except DivisionByZero Int :=
  if m = 0 then .error ⟨a⟩ else .ok (a.fmod m)

/-- What the check does on finding a remainder: it goes on if that is the expected one. -/
def expecting (a m r : Int) (defect : RsaDefect)
    (next : Except DivisionByZero (Option RsaDefect)) : Except DivisionByZero (Option RsaDefect) :=
  match remainder a m with
  | .error fault => .error fault
  | .ok found => if found = r then next else .ok (some defect)

/-- The first broken relation, found by one division after the other. -/
def inspect (k : RsaNumbers) : Except DivisionByZero (Option RsaDefect) :=
  let product := k.privateExponent * k.publicExponent
  if k.publicExponent < 2 then .ok (some .smallExponent)
  else if k.prime1 ≤ 1 ∨ k.prime2 ≤ 1 then .ok (some .invalidPrime)
  else if k.prime1 * k.prime2 ≠ k.modulus then .ok (some .invalidModulus)
  else
    expecting product (k.prime1 - 1) 1 .invalidExponents <|
    expecting product (k.prime2 - 1) 1 .invalidExponents <|
    expecting k.privateExponent (k.prime1 - 1) k.exponent1 .invalidCrtExponents <|
    expecting k.privateExponent (k.prime2 - 1) k.exponent2 .invalidCrtExponents <|
    expecting (k.coefficient * k.prime2) k.prime1 1 .invalidCrtCoefficient <|
    .ok none

/-- By a positive divisor there is a remainder, and it is the one that is not negative. -/
theorem expecting_of_pos {a m r : Int} {defect : RsaDefect}
    {next : Except DivisionByZero (Option RsaDefect)} (hm : 0 < m) :
    expecting a m r defect next = if a % m = r then next else .ok (some defect) := by
  have hremainder : remainder a m = .ok (a % m) := by
    rw [remainder, if_neg hm.ne', Int.fmod_eq_emod_of_nonneg a hm.le]
  rw [expecting, hremainder]

/-- Every divisor is tested to be positive before it divides. -/
theorem inspect_eq (k : RsaNumbers) : k.inspect = .ok k.defect? := by
  unfold inspect defect?
  by_cases hsmall : k.publicExponent < 2
  · rw [if_pos hsmall, if_pos hsmall]
  · by_cases hprime : k.prime1 ≤ 1 ∨ k.prime2 ≤ 1
    · rw [if_neg hsmall, if_pos hprime, if_neg hsmall, if_pos hprime]
    · have hp : 0 < k.prime1 - 1 := by omega
      have hq : 0 < k.prime2 - 1 := by omega
      have hp0 : 0 < k.prime1 := by omega
      simp only [hsmall, hprime, if_false, expecting_of_pos, hp, hq, hp0, invertsModulo,
        eq_comm (b := k.exponent1), eq_comm (b := k.exponent2)]
      split_ifs <;> simp_all

/-- **The check decides whether numbers are consistent, but for the prime two.** For all numbers,
negative ones and zero included, no division by zero occurs. -/
theorem inspect_decides (k : RsaNumbers) :
    k.inspect = .ok k.defect? ∧
      (k.defect? = none ↔ k.Consistent ∧ k.prime1 ≠ 2 ∧ k.prime2 ≠ 2) :=
  ⟨k.inspect_eq, defect?_eq_none_iff⟩

/-- The key with the primes two and three. -/
def evenKey : RsaNumbers :=
  ⟨6, 3, 1, 2, 3, 0, 1, 1⟩

/-- The key with the primes two and three is consistent and turned away. -/
theorem not_decides_evenKey : ¬(evenKey.defect? = none ↔ evenKey.Consistent) := by
  have hconsistent : evenKey.Consistent := by
    constructor <;> decide
  have hdefect : evenKey.defect? = some .invalidExponents := by
    decide
  rw [hdefect]
  exact fun h => absurd (h.mpr hconsistent) (by decide)

end RsaNumbers

end JenkinsAdmission
