import JenkinsAdmission.Key.Curve

/-!
# Algorithms of keys

An **algorithm identifier** is an object identifier with parameters, of which each algorithm has its
own. `KeyAlgorithm.of?` reads the identifiers of the algorithms that a private key may be of, and
keeps of the parameters what the key itself depends on.

A parameter with a default must not be given when it has that value.
-/

namespace JenkinsAdmission

open Der

/-- An algorithm that a private key may be of. -/
inductive KeyAlgorithm
  /-- RSA, whatever the key is used for -/
  | rsa
  /-- elliptic curves; the element says which curve -/
  | ellipticCurve (curve : Element)
  /-- DSA modulo a prime -/
  | dsa (prime : Nat)
  /-- Diffie-Hellman modulo a prime -/
  | diffieHellman (prime : Nat)
  /-- one whose keys are byte strings of a length -/
  | raw (length : Nat)
  /-- one whose keys are given by a seed of a length -/
  | seeded (length : Nat)

namespace KeyAlgorithm

/-! ## Object identifiers -/

/-- `1.2.840.113549.1.1.1`, RSA encryption. -/
def rsaEncryption : Bytes := [0x2A, 0x86, 0x48, 0x86, 0xF7, 0x0D, 0x01, 0x01, 0x01]

/-- `1.2.840.113549.1.1.8`, the mask generation of the probabilistic padding. -/
def maskGeneration : Bytes := [0x2A, 0x86, 0x48, 0x86, 0xF7, 0x0D, 0x01, 0x01, 0x08]

/-- `1.2.840.113549.1.1.10`, RSA signatures with probabilistic padding. -/
def rsaPss : Bytes := [0x2A, 0x86, 0x48, 0x86, 0xF7, 0x0D, 0x01, 0x01, 0x0A]

/-- `1.2.840.10045.2.1`, elliptic-curve keys. -/
def ecPublicKey : Bytes := [0x2A, 0x86, 0x48, 0xCE, 0x3D, 0x02, 0x01]

/-- `1.2.840.10040.4.1`, DSA. -/
def dsaIdentifier : Bytes := [0x2A, 0x86, 0x48, 0xCE, 0x38, 0x04, 0x01]

/-- `1.2.840.113549.1.3.1`, Diffie-Hellman modulo a prime with a generator. -/
def dhKeyAgreement : Bytes := [0x2A, 0x86, 0x48, 0x86, 0xF7, 0x0D, 0x01, 0x03, 0x01]

/-- `1.2.840.10046.2.1`, Diffie-Hellman in a subgroup. -/
def dhPublicNumber : Bytes := [0x2A, 0x86, 0x48, 0xCE, 0x3E, 0x02, 0x01]

/-- `1.3.14.3.2.26`, the hash function SHA-1. -/
def sha1Identifier : Bytes := [0x2B, 0x0E, 0x03, 0x02, 0x1A]

/-- An identifier below `2.16.840.1.101.3.4`. -/
def nist (arcs : Bytes) : Bytes := [0x60, 0x86, 0x48, 0x01, 0x65, 0x03, 0x04] ++ arcs

/-- The hash functions: SHA-1, those of 224 to 512 bits, and those of the third generation. -/
def hashes : List Bytes :=
  sha1Identifier :: ([1, 2, 3, 4, 7, 8, 9, 10].map fun i => nist [0x02, i])

/-- The algorithms without parameters: X25519, X448, Ed25519 and Ed448, whose keys are byte strings,
and the module-lattice signatures of three strengths and key encapsulations of two, whose keys are
given by a seed. -/
def plainAlgorithms : List (Bytes × KeyAlgorithm) :=
  [([0x2B, 0x65, 0x6E], .raw 32), ([0x2B, 0x65, 0x6F], .raw 56), ([0x2B, 0x65, 0x70], .raw 32),
    ([0x2B, 0x65, 0x71], .raw 57), (nist [0x03, 0x11], .seeded 32), (nist [0x03, 0x12], .seeded 32),
    (nist [0x03, 0x13], .seeded 32), (nist [0x04, 0x02], .seeded 64),
    (nist [0x04, 0x03], .seeded 64)]

/-! ## Parameters -/

/-- Whether parameters are NULL or absent. -/
def isNullOrAbsent (parameters : List Element) : Bool :=
  parameters.isEmpty || parameters == [⟨null, []⟩]

/-- Whether an element is an algorithm identifier as it may stand inside parameters: one of a hash
function, or of anything else with one parameter at most. -/
def isAlgorithm (e : Element) : Bool :=
  match partsOf? sequence e with
  | some (identifier :: parameters) =>
    isIdentifier identifier &&
      if hashes.contains identifier.content then isNullOrAbsent parameters
      else decide (parameters.length ≤ 1)
  | _ => false

/-- SHA-1, the hash function by default. -/
def sha1 : Element := .ofParts [⟨objectIdentifier, sha1Identifier⟩, ⟨null, []⟩]

/-- Mask generation with SHA-1, the one by default. -/
def maskWithSha1 : Element := .ofParts [⟨objectIdentifier, maskGeneration⟩, sha1]

/-- Whether an element is a mask generation with an algorithm. -/
def isMask (e : Element) : Bool :=
  match partsOf? sequence e with
  | some [identifier, algorithm] => isIdentifier identifier && isAlgorithm algorithm
  | _ => false

/-- Whether an element is a number below a bound. -/
def isBelow (bound : Nat) (e : Element) : Bool :=
  (natural? e).any fun n => decide (n < bound)

/-- Whether an element is the parameters of the probabilistic padding: a hash function, a mask
generation, the length of the salt, which is twenty by default, and a trailer. -/
def isPadding (e : Element) : Bool :=
  let verdict? : Option Bool := do
    let parts ← partsOf? sequence e
    let (hash, parts) ← wrapped? 0 parts
    let (mask, parts) ← wrapped? 1 parts
    let (salt, parts) ← wrapped? 2 parts
    let (trailer, parts) ← wrapped? 3 parts
    some (parts.isEmpty
      && hash.all (fun h => isAlgorithm h && h != sha1)
      && mask.all (fun m => isMask m && m != maskWithSha1)
      && salt.all (fun s => isBelow 0x10000 s && s != .ofNat 20)
      && trailer.all (isBelow 0x100))
  verdict?.getD false

/-- The prime of the parameters `prime, generator, length OPTIONAL`. -/
def primeOfAgreement? (e : Element) : Option Nat := do
  match ← naturals? e with
  | [prime, _] => some prime
  | [prime, _, length] => if length < 0x100000000 then some prime else none
  | _ => none

/-- The prime of the parameters `prime, generator, order, cofactor OPTIONAL, SEQUENCE OPTIONAL`. -/
def primeOfSubgroup? (e : Element) : Option Nat := do
  let parts ← partsOf? sequence e
  let isNumber (part : Element) := part.tag == integer
  let numbers ← (parts.takeWhile isNumber).mapM natural?
  let prime :: _ :: _ :: cofactor := numbers | none
  let tags := (parts.dropWhile isNumber).map (·.tag)
  if cofactor.length ≤ 1 ∧ (tags = [] ∨ tags = [sequence]) then some prime else none

/-- The algorithm of an identifier with parameters. -/
def of? (identifier : Bytes) (parameters : List Element) : Option KeyAlgorithm :=
  if identifier = rsaEncryption then
    if isNullOrAbsent parameters then some .rsa else none
  else if identifier = rsaPss then
    if parameters.length ≤ 1 && parameters.all isPadding then some .rsa else none
  else
    match parameters with
    | [] => plainAlgorithms.lookup identifier
    | [e] =>
      if identifier = ecPublicKey then some (.ellipticCurve e)
      else if identifier = dsaIdentifier then
        match naturals? e with
        | some [prime, _, _] => some (.dsa prime)
        | _ => none
      else if identifier = dhKeyAgreement then (primeOfAgreement? e).map .diffieHellman
      else if identifier = dhPublicNumber then (primeOfSubgroup? e).map .diffieHellman
      else none
    | _ => none

end KeyAlgorithm

end JenkinsAdmission
