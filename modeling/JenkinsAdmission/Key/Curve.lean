import JenkinsAdmission.Key.Der

/-!
# Elliptic curves

The prime curves `y² = x³ + a·x + b` that a private key may be on, and the multiples of their
generators. Points are computed in Jacobian coordinates, where `(x, y, z)` stands for
`(x / z², y / z³)` and `z = 0` for the point at infinity, so one division at the end is enough.

A key names its curve by an object identifier. Three of the curves may be **spelled out** instead,
by all their numbers in a fixed form.
-/

namespace JenkinsAdmission

open Der

/-- A curve over the integers modulo a prime, with a generator. -/
structure Curve where
  /-- the content of its object identifier -/
  identifier : Bytes
  /-- the prime -/
  prime : Int
  /-- the coefficient of `x` -/
  a : Int
  /-- the constant coefficient -/
  b : Int
  /-- the first coordinate of the generator -/
  x : Int
  /-- the second coordinate of the generator -/
  y : Int
  /-- the order of the generator -/
  order : Nat
  /-- where the coefficients come from, for a curve that may be spelled out -/
  seed : Option Bytes

namespace Curve

/-- A point in Jacobian coordinates. -/
structure Point where
  /-- the numerator of the first coordinate -/
  x : Int
  /-- the numerator of the second coordinate -/
  y : Int
  /-- the root of the denominators -/
  z : Int

/-- The power of a number modulo the prime. -/
def power (c : Curve) (b : Int) (n : Nat) : Int :=
  if n = 0 then 1 % c.prime
  else
    let root := c.power b (n / 2)
    let square := root * root % c.prime
    if n % 2 = 1 then square * b % c.prime else square
termination_by n

/-- A point added to itself. -/
def double (c : Curve) (p : Point) : Point :=
  let yy := p.y * p.y % c.prime
  let s := 4 * p.x * yy % c.prime
  let zz := p.z * p.z % c.prime
  let m := (3 * p.x * p.x + c.a * zz * zz) % c.prime
  let x := (m * m - 2 * s) % c.prime
  ⟨x, (m * (s - x) - 8 * yy * yy) % c.prime, 2 * p.y * p.z % c.prime⟩

/-- The sum of two points. -/
def add (c : Curve) (p q : Point) : Point :=
  if p.z = 0 then q
  else if q.z = 0 then p
  else
    let pzz := p.z * p.z % c.prime
    let qzz := q.z * q.z % c.prime
    let u := p.x * qzz % c.prime
    let h := (q.x * pzz - u) % c.prime
    let s := p.y * qzz * q.z % c.prime
    let r := (q.y * pzz * p.z - s) % c.prime
    if h = 0 then
      if r = 0 then c.double p else ⟨1, 1, 0⟩
    else
      let hh := h * h % c.prime
      let hhh := hh * h % c.prime
      let v := u * hh % c.prime
      let x := (r * r - hhh - 2 * v) % c.prime
      ⟨x, (r * (v - x) - s * hhh) % c.prime, h * p.z * q.z % c.prime⟩

/-- The `n`-fold sum of the generator. -/
def multiple (c : Curve) (n : Nat) : Point :=
  if n = 0 then ⟨1, 1, 0⟩
  else
    let half := c.double (c.multiple (n / 2))
    if n % 2 = 1 then c.add half ⟨c.x, c.y, 1⟩ else half
termination_by n

/-! ## Bytes -/

/-- The number of bytes of a coordinate. -/
def width (c : Curve) : Nat :=
  (c.prime.natAbs.log2 + 8) / 8

/-- The bytes of a coordinate, the most significant first. -/
def coordinate (c : Curve) (n : Int) : Bytes :=
  (List.range c.width).reverse.map fun i => UInt8.ofNat (n.natAbs / Nat.pow 256 i)

/-- The written forms of the public point of a private number: both coordinates, one coordinate
with the parity of the other, and both with the parity. -/
def publicForms (c : Curve) (secret : Nat) : List Bytes :=
  let p := c.multiple secret
  let inverse := c.power p.z (c.prime.natAbs - 2)
  let x := p.x * inverse * inverse % c.prime
  let y := p.y * inverse * inverse * inverse % c.prime
  let parity := UInt8.ofNat (y % 2).natAbs
  [0x04 :: c.coordinate x ++ c.coordinate y,
    (0x02 + parity) :: c.coordinate x,
    (0x06 + parity) :: c.coordinate x ++ c.coordinate y]

/-- The curve of 192 bits over a pseudo-Mersenne prime. -/
def p192 : Curve where
  identifier := [0x2A, 0x86, 0x48, 0xCE, 0x3D, 0x03, 0x01, 0x01]
  prime := 0xFFFFFFFFFFFFFFFFFFFFFFFFFFFFFFFEFFFFFFFFFFFFFFFF
  a := -3
  b := 0x64210519E59C80E70FA7E9AB72243049FEB8DEECC146B9B1
  x := 0x188DA80EB03090F67CBF20EB43A18800F4FF0AFD82FF1012
  y := 0x7192B95FFC8DA78631011ED6B24CDD573F977A11E794811
  order := 0xFFFFFFFFFFFFFFFFFFFFFFFF99DEF836146BC9B1B4D22831
  seed := none

/-- The curve of 224 bits over a pseudo-Mersenne prime. -/
def p224 : Curve where
  identifier := [0x2B, 0x81, 0x04, 0x00, 0x21]
  prime := 0xFFFFFFFFFFFFFFFFFFFFFFFFFFFFFFFF000000000000000000000001
  a := -3
  b := 0xB4050A850C04B3ABF54132565044B0B7D7BFD8BA270B39432355FFB4
  x := 0xB70E0CBD6BB4BF7F321390B94A03C1D356C21122343280D6115C1D21
  y := 0xBD376388B5F723FB4C22DFE6CD4375A05A07476444D5819985007E34
  order := 0xFFFFFFFFFFFFFFFFFFFFFFFFFFFF16A2E0B8F03E13DD29455C5C2A3D
  seed := none

/-- The curve of 256 bits over a pseudo-Mersenne prime. -/
def p256 : Curve where
  identifier := [0x2A, 0x86, 0x48, 0xCE, 0x3D, 0x03, 0x01, 0x07]
  prime := 0xFFFFFFFF00000001000000000000000000000000FFFFFFFFFFFFFFFFFFFFFFFF
  a := -3
  b := 0x5AC635D8AA3A93E7B3EBBD55769886BC651D06B0CC53B0F63BCE3C3E27D2604B
  x := 0x6B17D1F2E12C4247F8BCE6E563A440F277037D812DEB33A0F4A13945D898C296
  y := 0x4FE342E2FE1A7F9B8EE7EB4A7C0F9E162BCE33576B315ECECBB6406837BF51F5
  order := 0xFFFFFFFF00000000FFFFFFFFFFFFFFFFBCE6FAADA7179E84F3B9CAC2FC632551
  seed := some [
    0xC4, 0x9D, 0x36, 0x08, 0x86, 0xE7, 0x04, 0x93, 0x6A, 0x66,
    0x78, 0xE1, 0x13, 0x9D, 0x26, 0xB7, 0x81, 0x9F, 0x7E, 0x90]

/-- The curve of 384 bits over a pseudo-Mersenne prime. -/
def p384 : Curve where
  identifier := [0x2B, 0x81, 0x04, 0x00, 0x22]
  prime :=
    0xFFFFFFFFFFFFFFFFFFFFFFFFFFFFFFFFFFFFFFFFFFFFFFFFFFFFFFFFFFFFFFFEFFFFFFFF0000000000000000FFFFFFFF
  a := -3
  b :=
    0xB3312FA7E23EE7E4988E056BE3F82D19181D9C6EFE8141120314088F5013875AC656398D8A2ED19D2A85C8EDD3EC2AEF
  x :=
    0xAA87CA22BE8B05378EB1C71EF320AD746E1D3B628BA79B9859F741E082542A385502F25DBF55296C3A545E3872760AB7
  y :=
    0x3617DE4A96262C6F5D9E98BF9292DC29F8F41DBD289A147CE9DA3113B5F0B8C00A60B1CE1D7E819D7A431D7C90EA0E5F
  order :=
    0xFFFFFFFFFFFFFFFFFFFFFFFFFFFFFFFFFFFFFFFFFFFFFFFFC7634D81F4372DDF581A0DB248B0A77AECEC196ACCC52973
  seed := some [
    0xA3, 0x35, 0x92, 0x6A, 0xA3, 0x19, 0xA2, 0x7A, 0x1D, 0x00,
    0x89, 0x6A, 0x67, 0x73, 0xA4, 0x82, 0x7A, 0xCD, 0xAC, 0x73]

/-- The curve of 521 bits over a Mersenne prime. -/
def p521 : Curve where
  identifier := [0x2B, 0x81, 0x04, 0x00, 0x23]
  prime :=
    0x1FFFFFFFFFFFFFFFFFFFFFFFFFFFFFFFFFFFFFFFFFFFFFFFFFFFFFFFFFFFFFFFFFFFFFFFFFFFFFFFFFFFFFFFFFFFFFFFFFFFFFFFFFFFFFFFFFFFFFFFFFFFFFFFFFF
  a := -3
  b :=
    0x51953EB9618E1C9A1F929A21A0B68540EEA2DA725B99B315F3B8B489918EF109E156193951EC7E937B1652C0BD3BB1BF073573DF883D2C34F1EF451FD46B503F00
  x :=
    0xC6858E06B70404E9CD9E3ECB662395B4429C648139053FB521F828AF606B4D3DBAA14B5E77EFE75928FE1DC127A2FFA8DE3348B3C1856A429BF97E7E31C2E5BD66
  y :=
    0x11839296A789A3BC0045C8A5FB42C7D1BD998F54449579B446817AFBD17273E662C97EE72995EF42640C550B9013FAD0761353C7086A272C24088BE94769FD16650
  order :=
    0x1FFFFFFFFFFFFFFFFFFFFFFFFFFFFFFFFFFFFFFFFFFFFFFFFFFFFFFFFFFFFFFFFFA51868783BF2F966B7FCC0148F709A5D03BB5C9B8899C47AEBB6FB71E91386409
  seed := some [
    0xD0, 0x9E, 0x88, 0x00, 0x29, 0x1C, 0xB8, 0x53, 0x96, 0xCC,
    0x67, 0x17, 0x39, 0x32, 0x84, 0xAA, 0xA0, 0xDA, 0x64, 0xBA]

/-- The Koblitz curve of 256 bits. -/
def koblitz256 : Curve where
  identifier := [0x2B, 0x81, 0x04, 0x00, 0x0A]
  prime := 0xFFFFFFFFFFFFFFFFFFFFFFFFFFFFFFFFFFFFFFFFFFFFFFFFFFFFFFFEFFFFFC2F
  a := 0x0
  b := 0x7
  x := 0x79BE667EF9DCBBAC55A06295CE870B07029BFCDB2DCE28D959F2815B16F81798
  y := 0x483ADA7726A3C4655DA4FBFC0E1108A8FD17B448A68554199C47D08FFB10D4B8
  order := 0xFFFFFFFFFFFFFFFFFFFFFFFFFFFFFFFEBAAEDCE6AF48A03BBFD25E8CD0364141
  seed := none

/-- The Brainpool curve of 256 bits. -/
def brainpool256 : Curve where
  identifier := [0x2B, 0x24, 0x03, 0x03, 0x02, 0x08, 0x01, 0x01, 0x07]
  prime := 0xA9FB57DBA1EEA9BC3E660A909D838D726E3BF623D52620282013481D1F6E5377
  a := 0x7D5A0975FC2C3057EEF67530417AFFE7FB8055C126DC5C6CE94A4B44F330B5D9
  b := 0x26DC5C6CE94A4B44F330B5D9BBD77CBF958416295CF7E1CE6BCCDC18FF8C07B6
  x := 0x8BD2AEB9CB7E57CB2C4B482FFC81B7AFB9DE27E1E3BD23C23A4453BD9ACE3262
  y := 0x547EF835C3DAC4FD97F8461A14611DC9C27745132DED8E545C1D54C72F046997
  order := 0xA9FB57DBA1EEA9BC3E660A909D838D718C397AA3B561A6F7901E0E82974856A7
  seed := none

/-- The Brainpool curve of 384 bits. -/
def brainpool384 : Curve where
  identifier := [0x2B, 0x24, 0x03, 0x03, 0x02, 0x08, 0x01, 0x01, 0x0B]
  prime :=
    0x8CB91E82A3386D280F5D6F7E50E641DF152F7109ED5456B412B1DA197FB71123ACD3A729901D1A71874700133107EC53
  a :=
    0x7BC382C63D8C150C3C72080ACE05AFA0C2BEA28E4FB22787139165EFBA91F90F8AA5814A503AD4EB04A8C7DD22CE2826
  b :=
    0x4A8C7DD22CE28268B39B55416F0447C2FB77DE107DCD2A62E880EA53EEB62D57CB4390295DBC9943AB78696FA504C11
  x :=
    0x1D1C64F068CF45FFA2A63A81B7C13F6B8847A3E77EF14FE3DB7FCAFE0CBD10E8E826E03436D646AAEF87B2E247D4AF1E
  y :=
    0x8ABE1D7520F9C2A45CB1EB8E95CFD55262B70B29FEEC5864E19C054FF99129280E4646217791811142820341263C5315
  order :=
    0x8CB91E82A3386D280F5D6F7E50E641DF152F7109ED5456B31F166E6CAC0425A7CF3AB6AF6B7FC3103B883202E9046565
  seed := none

/-- The Brainpool curve of 512 bits. -/
def brainpool512 : Curve where
  identifier := [0x2B, 0x24, 0x03, 0x03, 0x02, 0x08, 0x01, 0x01, 0x0D]
  prime :=
    0xAADD9DB8DBE9C48B3FD4E6AE33C9FC07CB308DB3B3C9D20ED6639CCA703308717D4D9B009BC66842AECDA12AE6A380E62881FF2F2D82C68528AA6056583A48F3
  a :=
    0x7830A3318B603B89E2327145AC234CC594CBDD8D3DF91610A83441CAEA9863BC2DED5D5AA8253AA10A2EF1C98B9AC8B57F1117A72BF2C7B9E7C1AC4D77FC94CA
  b :=
    0x3DF91610A83441CAEA9863BC2DED5D5AA8253AA10A2EF1C98B9AC8B57F1117A72BF2C7B9E7C1AC4D77FC94CADC083E67984050B75EBAE5DD2809BD638016F723
  x :=
    0x81AEE4BDD82ED9645A21322E9C4C6A9385ED9F70B5D916C1B43B62EEF4D0098EFF3B1F78E2D0D48D50D1687B93B97D5F7C6D5047406A5E688B352209BCB9F822
  y :=
    0x7DDE385D566332ECC0EABFA9CF7822FDF209F70024A57B1AA000C55B881F8111B2DCDE494A5F485E5BCA4BD88A2763AED1CA2B2FA8F0540678CD1E0F3AD80892
  order :=
    0xAADD9DB8DBE9C48B3FD4E6AE33C9FC07CB308DB3B3C9D20ED6639CCA70330870553E5C414CA92619418661197FAC10471DB1D381085DDADDB58796829CA90069
  seed := none

/-! ## The curves of keys -/

/-- Every curve that a key may name. -/
def all : List Curve :=
  [p192, p224, p256, p384, p521, koblitz256, brainpool256, brainpool384, brainpool512]

/-- `1.2.840.10045.1.1`, the integers modulo a prime. -/
def primeField : Bytes := [0x2A, 0x86, 0x48, 0xCE, 0x3D, 0x01, 0x01]

/-- A curve spelled out: `SEQUENCE { 1, SEQUENCE { prime field, prime }, SEQUENCE { a, b, seed
OPTIONAL }, generator, order, 1 }`. -/
def spelledOut (c : Curve) (seed : Option Bytes) : Element :=
  let bytes (n : Int) : Element := ⟨octetString, c.coordinate (n % c.prime)⟩
  .ofParts [
    .ofNat 1,
    .ofParts [⟨objectIdentifier, primeField⟩, .ofNat c.prime.natAbs],
    .ofParts (bytes c.a :: bytes c.b :: (seed.map .ofBits).toList),
    ⟨octetString, 0x04 :: c.coordinate c.x ++ c.coordinate c.y⟩,
    .ofNat c.order,
    .ofNat 1]

/-- The ways to spell a curve out, with its seed and without. -/
def spellings (c : Curve) : List Element :=
  match c.seed with
  | some seed => [c.spelledOut (some seed), c.spelledOut none]
  | none => []

/-- The curve that an element names or spells out. -/
def ofElement? (e : Element) : Option Curve :=
  all.find? fun c => e == ⟨objectIdentifier, c.identifier⟩ || c.spellings.contains e

/-- The number of bytes of a private number. -/
def secretWidth (c : Curve) : Nat := (c.order.log2 + 8) / 8

end Curve

end JenkinsAdmission
