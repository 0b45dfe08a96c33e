import JenkinsAdmission.Proofs.Key.Consistency
import Mathlib.Tactic.Ring

/-!
# Tampering with one number of a key

Somebody changes a single number of a key that passes. Does the changed key still pass?

* `RsaNumbers.DiffersAt` relates two keys that have different numbers at one **place** and the same
  ones everywhere else.
* `RsaNumbers.Overlooks` are the changes that keep every relation: another private exponent,
  public exponent or coefficient of the same residues.
* `RsaNumbers.defect?_tampered_eq_none_iff` says that these changes pass and no others. The modulus,
  the primes and the reduced exponents are determined by the other numbers, so no change of one of
  them passes.
-/

namespace JenkinsAdmission

namespace RsaNumbers

/-- The places of the numbers of a key. -/
inductive Place
  /-- the product of the primes -/
  | modulus
  /-- the exponent of the public operation -/
  | publicExponent
  /-- the exponent of the private operation -/
  | privateExponent
  /-- the first prime -/
  | prime1
  /-- the second prime -/
  | prime2
  /-- the private exponent reduced for the first prime -/
  | exponent1
  /-- the private exponent reduced for the second prime -/
  | exponent2
  /-- the inverse of the second prime modulo the first -/
  | coefficient
  deriving DecidableEq

/-- The number at a place. -/
def number (k : RsaNumbers) : Place → Int
  | .modulus => k.modulus
  | .publicExponent => k.publicExponent
  | .privateExponent => k.privateExponent
  | .prime1 => k.prime1
  | .prime2 => k.prime2
  | .exponent1 => k.exponent1
  | .exponent2 => k.exponent2
  | .coefficient => k.coefficient

/-- The key with another number at a place. -/
def replace (k : RsaNumbers) (x : Int) : Place → RsaNumbers
  | .modulus => { k with modulus := x }
  | .publicExponent => { k with publicExponent := x }
  | .privateExponent => { k with privateExponent := x }
  | .prime1 => { k with prime1 := x }
  | .prime2 => { k with prime2 := x }
  | .exponent1 => { k with exponent1 := x }
  | .exponent2 => { k with exponent2 := x }
  | .coefficient => { k with coefficient := x }

/-- Keys whose numbers differ at one place and agree at all others. -/
def DiffersAt (k k' : RsaNumbers) (place : Place) : Prop :=
  ∀ other, k'.number other = k.number other ↔ other ≠ place

/-- The numbers that keep every relation of a key when they take a place in it. -/
def Overlooks (k : RsaNumbers) : Place → Int → Prop
  | .privateExponent, d =>
    d ≡ k.privateExponent [ZMOD k.prime1 - 1] ∧ d ≡ k.privateExponent [ZMOD k.prime2 - 1]
  | .publicExponent, e =>
    2 ≤ e ∧ e ≡ k.publicExponent [ZMOD k.prime1 - 1] ∧ e ≡ k.publicExponent [ZMOD k.prime2 - 1]
  | .coefficient, c => c ≡ k.coefficient [ZMOD k.prime1]
  | _, _ => False

variable {k : RsaNumbers}

/-- A key that differs at one place is the other one with a new number there. -/
theorem DiffersAt.exists_replace {k' : RsaNumbers} {place : Place} (h : k.DiffersAt k' place) :
    ∃ x, x ≠ k.number place ∧ k' = k.replace x place ∧ k'.number place = x := by
  have hne : k'.number place ≠ k.number place := fun heq => (h place).mp heq rfl
  have hagree : ∀ other, other ≠ place → k'.number other = k.number other :=
    fun other hother => (h other).mpr hother
  refine ⟨_, hne, ?_, rfl⟩
  have hmodulus := hagree .modulus
  have hpublic := hagree .publicExponent
  have hprivate := hagree .privateExponent
  have hprime1 := hagree .prime1
  have hprime2 := hagree .prime2
  have hexponent1 := hagree .exponent1
  have hexponent2 := hagree .exponent2
  have hcoefficient := hagree .coefficient
  cases k'
  cases place <;> simp_all [number, replace]

/-! ## Congruent factors -/

/-- The factors that invert `a` are those congruent to one of them. -/
theorem mul_modEq_one_iff {a b c m : Int} (h : a * b ≡ 1 [ZMOD m]) :
    a * c ≡ 1 [ZMOD m] ↔ c ≡ b [ZMOD m] := by
  constructor
  · intro hc
    calc c = 1 * c := (one_mul c).symm
      _ ≡ a * b * c [ZMOD m] := h.symm.mul_right c
      _ = b * (a * c) := by ring
      _ ≡ b * 1 [ZMOD m] := hc.mul_left b
      _ = b := mul_one b
  · intro hc
    exact (hc.mul_left a).trans h

/-- The same with the inverse on the left. -/
theorem mul_modEq_one_iff_comm {a b c m : Int} (h : b * a ≡ 1 [ZMOD m]) :
    c * a ≡ 1 [ZMOD m] ↔ c ≡ b [ZMOD m] := by
  rw [mul_comm b a] at h
  rw [mul_comm c a, mul_modEq_one_iff h]

/-! ## One place at a time -/

section

variable (h : k.Consistent) {x : Int}
include h

/-- The modulus is the product of the factors, so no other one is consistent with them. -/
theorem Consistent.eq_of_modulus (hx : (k.replace x .modulus).Consistent) : x = k.modulus :=
  hx.modulus_eq.symm.trans h.modulus_eq

/-- The factor is what the modulus leaves over. -/
theorem Consistent.eq_of_prime1 (hx : (k.replace x .prime1).Consistent) : x = k.prime1 := by
  have hprime2 : k.prime2 ≠ 0 := by
    have := h.one_lt_prime2
    omega
  have hproduct : x * k.prime2 = k.prime1 * k.prime2 := hx.modulus_eq.trans h.modulus_eq.symm
  exact mul_right_cancel₀ hprime2 hproduct

theorem Consistent.eq_of_prime2 (hx : (k.replace x .prime2).Consistent) : x = k.prime2 := by
  have hprime1 : k.prime1 ≠ 0 := by
    have := h.one_lt_prime1
    omega
  have hproduct : k.prime1 * x = k.prime1 * k.prime2 := hx.modulus_eq.trans h.modulus_eq.symm
  exact mul_left_cancel₀ hprime1 hproduct

theorem Consistent.eq_of_exponent1 (hx : (k.replace x .exponent1).Consistent) : x = k.exponent1 :=
  hx.exponent1_eq.trans h.exponent1_eq.symm

theorem Consistent.eq_of_exponent2 (hx : (k.replace x .exponent2).Consistent) : x = k.exponent2 :=
  hx.exponent2_eq.trans h.exponent2_eq.symm

/-- Another private exponent is overlooked when it is congruent for both factors. -/
theorem Consistent.privateExponent_iff :
    (k.replace x .privateExponent).Consistent ↔ k.Overlooks .privateExponent x := by
  constructor
  · intro hx
    exact ⟨(mul_modEq_one_iff_comm h.inverse1).mp hx.inverse1,
      (mul_modEq_one_iff_comm h.inverse2).mp hx.inverse2⟩
  · rintro ⟨hx1, hx2⟩
    -- the reduced exponents stay what they are, since the new exponent has the same residues
    exact {
      h with
      inverse1 := (mul_modEq_one_iff_comm h.inverse1).mpr hx1
      inverse2 := (mul_modEq_one_iff_comm h.inverse2).mpr hx2
      exponent1_eq := h.exponent1_eq.trans hx1.symm
      exponent2_eq := h.exponent2_eq.trans hx2.symm }

/-- Another public exponent is overlooked when it is congruent for both factors. -/
theorem Consistent.publicExponent_iff :
    (k.replace x .publicExponent).Consistent ↔ k.Overlooks .publicExponent x := by
  constructor
  · intro hx
    exact ⟨hx.two_le_publicExponent, (mul_modEq_one_iff h.inverse1).mp hx.inverse1,
      (mul_modEq_one_iff h.inverse2).mp hx.inverse2⟩
  · rintro ⟨htwo, hx1, hx2⟩
    exact {
      h with
      two_le_publicExponent := htwo
      inverse1 := (mul_modEq_one_iff h.inverse1).mpr hx1
      inverse2 := (mul_modEq_one_iff h.inverse2).mpr hx2 }

/-- Another coefficient is overlooked when it is congruent for the first factor. -/
theorem Consistent.coefficient_iff :
    (k.replace x .coefficient).Consistent ↔ k.Overlooks .coefficient x := by
  constructor
  · intro hx
    exact (mul_modEq_one_iff_comm h.coefficient_inverse).mp hx.coefficient_inverse
  · intro hx
    exact { h with coefficient_inverse := (mul_modEq_one_iff_comm h.coefficient_inverse).mpr hx }

end

/-! ## All places -/

/-- **The changes of one number that pass.** A changed modulus, prime or reduced exponent never
does. Another private exponent, public exponent or coefficient passes exactly when it has the
residues of the one before, and as a public exponent exceeds one. -/
theorem defect?_tampered_eq_none_iff {k' : RsaNumbers} {place : Place}
    (haccepted : k.defect? = none) (hdiffers : k.DiffersAt k' place) :
    k'.defect? = none ↔ k.Overlooks place (k'.number place) := by
  obtain ⟨h, hp2, hq2⟩ := defect?_eq_none_iff.mp haccepted
  obtain ⟨x, hne, rfl, hx⟩ := hdiffers.exists_replace
  rw [hx, defect?_eq_none_iff]
  cases place with
  | modulus => exact iff_of_false (fun hx => hne (h.eq_of_modulus hx.1)) id
  | prime1 => exact iff_of_false (fun hx => hne (h.eq_of_prime1 hx.1)) id
  | prime2 => exact iff_of_false (fun hx => hne (h.eq_of_prime2 hx.1)) id
  | exponent1 => exact iff_of_false (fun hx => hne (h.eq_of_exponent1 hx.1)) id
  | exponent2 => exact iff_of_false (fun hx => hne (h.eq_of_exponent2 hx.1)) id
  | privateExponent => exact (and_iff_left ⟨hp2, hq2⟩).trans h.privateExponent_iff
  | publicExponent => exact (and_iff_left ⟨hp2, hq2⟩).trans h.publicExponent_iff
  | coefficient => exact (and_iff_left ⟨hp2, hq2⟩).trans h.coefficient_iff

/-- A negative private exponent passes in the place of a positive one. -/
theorem defect?_tampered_oddKey :
    oddKey.defect? = none ∧
      oddKey.DiffersAt (oddKey.replace (-367) .privateExponent) .privateExponent ∧
      (oddKey.replace (-367) .privateExponent).defect? = none := by
  have haccepted : oddKey.defect? = none := by decide
  have hdiffers : oddKey.DiffersAt (oddKey.replace (-367) .privateExponent) .privateExponent := by
    intro other
    cases other <;> decide
  have hoverlooked : oddKey.Overlooks .privateExponent (-367) := ⟨by decide, by decide⟩
  exact ⟨haccepted, hdiffers,
    (defect?_tampered_eq_none_iff haccepted hdiffers).mpr hoverlooked⟩

end RsaNumbers

end JenkinsAdmission
