import JenkinsAdmission.Key.Algorithm
import JenkinsAdmission.Key.Rsa

/-!
# Private keys in DER

What a payload may be, whatever its label says: a PKCS#8 envelope around a key of a named
algorithm, or the bare structure of an RSA, an elliptic-curve or a DSA key. Only the numbers of an
RSA key matter to the rest of the library, so every other key is just `other`.

Reading is strict about the structure and says nothing about arithmetic: an RSA key of tiny, even
or zero numbers is read. An elliptic-curve key must be consistent to be a key at all. And an
envelope may hold bytes that no key of its algorithm can consist of; such a key is `impossible`.
-/

namespace JenkinsAdmission

open Der

/-- A private key as far as this library tells keys apart. -/
inductive PrivateKey
  /-- an RSA key -/
  | rsa (numbers : RsaNumbers)
  /-- a key of another algorithm -/
  | other
  /-- what cannot be a key of the algorithm that its envelope names -/
  | impossible
  deriving DecidableEq

namespace PrivateKey

/-! ## Bare structures -/

/-- `SEQUENCE { 0, n, e, d, p, q, d mod (p-1), d mod (q-1), q⁻¹ mod p }`. -/
def rsa? (b : Bytes) : Option PrivateKey := do
  let [0, n, e, d, p, q, dp, dq, c] ← (single? b).bind naturals? | none
  some (.rsa ⟨n, e, d, p, q, dp, dq, c⟩)

/-- `SEQUENCE { 0, p, q, g, y, x }`. -/
def dsa? (b : Bytes) : Option PrivateKey := do
  let [0, _, _, _, _, _] ← (single? b).bind naturals? | none
  some .other

/-- Whether the bytes of a secret number and of a public point are a pair of the curve. The number
has as many bytes as the order. Where no point is given there is nothing to compare. -/
def isPair (curve : Curve) (secret : Bytes) (point : Option Bytes) : Bool :=
  let n := number secret
  secret.length == curve.secretWidth && decide (0 < n) && decide (n < curve.order) &&
    point.all fun p => (curve.publicForms n).contains p

/-- The curve that an elliptic-curve key is on: given by the envelope, by the key, or by both
alike. -/
def agreedCurve? (outer inner : Option Element) : Option Curve :=
  match outer, inner with
  | none, none => none
  | some o, none => Curve.ofElement? o
  | none, some i => Curve.ofElement? i
  | some o, some i => if o = i then Curve.ofElement? o else none

/-- `SEQUENCE { 1, OCTET STRING, [0] curve OPTIONAL, [1] BIT STRING OPTIONAL }`. -/
def ec? (outer : Option Element) (b : Bytes) : Option PrivateKey := do
  let version :: secret :: parts ← elementsOf? sequence b | none
  let 1 ← natural? version | none
  let (inner, parts) ← wrapped? 0 parts
  let (point, parts) ← wrapped? 1 parts
  let curve ← agreedCurve? outer inner
  let point ← point.mapM bitString?
  if secret.tag = octetString ∧ parts.isEmpty ∧ isPair curve secret.content point then some .other
  else none

/-! ## Envelopes -/

/-- Whether a public number can be computed modulo a prime for Diffie-Hellman: it is odd and has 512
to 10000 bits. -/
def isAgreementPrime (prime : Nat) : Bool :=
  prime % 2 == 1 && decide (512 ≤ prime.log2 + 1) && decide (prime.log2 + 1 ≤ 10000)

/-- The key of an algorithm in the octets of an envelope. -/
def ofOctets? (algorithm : KeyAlgorithm) (octets : Bytes) : Option PrivateKey :=
  match algorithm with
  | .rsa => rsa? octets
  | .ellipticCurve curve => ec? (some curve) octets
  | .dsa prime => do
    let _ ← natural? (← single? octets)
    if prime = 0 then none else some .other
  | .diffieHellman prime => do
    let _ ← natural? (← single? octets)
    some (if isAgreementPrime prime then .other else .impossible)
  | .raw length => do
    let key ← contentOf? octetString octets
    some (if key.length = length then .other else .impossible)
  | .seeded length => do
    let seed ← contentOf? (contextBytes 0) octets
    if seed.length = length then some .other else none

/-- Whether an element is one attribute: an identifier and a set of values. -/
def isAttribute (e : Element) : Bool :=
  match partsOf? sequence e with
  | some [name, values] => isIdentifier name && ((partsOf? set values).any isOrdered)
  | _ => false

/-- Whether what follows the octets of an envelope is nothing or a set of attributes. -/
def isTrailer : List Element → Bool
  | [] => true
  | [e] => (partsOf? (context 0) e).any fun attributes =>
      attributes.all isAttribute && isOrdered attributes
  | _ => false

/-- `SEQUENCE { 0, SEQUENCE { algorithm, parameters }, OCTET STRING, [0] attributes OPTIONAL }`. -/
def envelope? (b : Bytes) : Option PrivateKey := do
  let version :: algorithm :: octets :: trailer ← elementsOf? sequence b | none
  let 0 ← natural? version | none
  let identifier :: parameters ← partsOf? sequence algorithm | none
  if isIdentifier identifier ∧ octets.tag = octetString ∧ isTrailer trailer then
    ofOctets? (← KeyAlgorithm.of? identifier.content parameters) octets.content
  else none

/-- The private key that a payload holds. -/
def ofDer? (b : Bytes) : Option PrivateKey :=
  envelope? b <|> rsa? b <|> ec? none b <|> dsa? b

end PrivateKey

end JenkinsAdmission
