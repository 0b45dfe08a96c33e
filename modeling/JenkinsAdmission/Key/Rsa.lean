import JenkinsAdmission.Unicode.CodePoint

/-!
# RSA key numbers

The eight numbers of an RSA private key and the relations between them. `RsaNumbers.defect?` tests
the relations in a fixed order and names the first that is broken. Every divisor it uses is
positive: the primes are tested to exceed one before anything is reduced modulo one less.
-/

namespace JenkinsAdmission

/-- The numbers of an RSA private key. -/
structure RsaNumbers where
  /-- the product of the primes -/
  modulus : Int
  /-- the exponent of the public operation -/
  publicExponent : Int
  /-- the exponent of the private operation -/
  privateExponent : Int
  /-- the first prime -/
  prime1 : Int
  /-- the second prime -/
  prime2 : Int
  /-- the private exponent modulo one less than the first prime -/
  exponent1 : Int
  /-- the private exponent modulo one less than the second prime -/
  exponent2 : Int
  /-- the inverse of the second prime modulo the first -/
  coefficient : Int
  deriving DecidableEq

/-- A broken relation between the numbers of a key. -/
inductive RsaDefect
  /-- the public exponent is below two -/
  | smallExponent
  /-- a prime is below two -/
  | invalidPrime
  /-- the modulus is not the product of the primes -/
  | invalidModulus
  /-- the exponents are not inverse to each other -/
  | invalidExponents
  /-- a reduced exponent is not the private exponent reduced -/
  | invalidCrtExponents
  /-- the coefficient does not invert the second prime -/
  | invalidCrtCoefficient
  deriving DecidableEq

/-- The wording of a defect. -/
def RsaDefect.message : RsaDefect → Text
  | smallExponent => "public exponent too small"
  | invalidPrime => "invalid prime"
  | invalidModulus => "invalid modulus"
  | invalidExponents => "invalid exponents"
  | invalidCrtExponents => "invalid CRT exponents"
  | invalidCrtCoefficient => "invalid CRT coefficient"

namespace RsaNumbers

/-- Whether the product of the exponents leaves the remainder one modulo `prime - 1`. For the
prime two the remainder is zero, so no exponent passes. -/
def invertsModulo (k : RsaNumbers) (prime : Int) : Bool :=
  k.privateExponent * k.publicExponent % (prime - 1) == 1

/-- The first broken relation. -/
def defect? (k : RsaNumbers) : Option RsaDefect :=
  if k.publicExponent < 2 then some .smallExponent
  else if k.prime1 ≤ 1 ∨ k.prime2 ≤ 1 then some .invalidPrime
  else if k.prime1 * k.prime2 ≠ k.modulus then some .invalidModulus
  else if !(k.invertsModulo k.prime1 && k.invertsModulo k.prime2) then some .invalidExponents
  else if k.exponent1 ≠ k.privateExponent % (k.prime1 - 1)
      ∨ k.exponent2 ≠ k.privateExponent % (k.prime2 - 1) then some .invalidCrtExponents
  else if k.coefficient * k.prime2 % k.prime1 ≠ 1 then some .invalidCrtCoefficient
  else none

end RsaNumbers

end JenkinsAdmission
