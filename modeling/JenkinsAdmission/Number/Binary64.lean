/-!
# Binary floating point

The numbers of 64 bits with a significand of 53, as exact data: a sign, a significand and an
exponent of two. Every operation computes the exact result as a quotient of natural numbers and
rounds once, to the nearest number and on a tie to the one with an even significand.

* `Binary64.round` rounds a quotient.
* `Binary64.ofDecimal` reads `digits · 10 ^ exponent`.
* `Binary64.add` and `Binary64.mul` are the sum and the product.
-/

namespace JenkinsAdmission

/-- A floating-point number. A finite one is `significand · 2 ^ exponent`, where the significand
is below `2 ^ 53`, the exponent is at least `-1074`, and the significand is at least `2 ^ 52` unless
the exponent is the least. -/
inductive Binary64
  /-- not a number; the payload only tells such results apart -/
  | nan (payload : Nat)
  /-- an infinity -/
  | infinite (negative : Bool)
  /-- a finite number -/
  | finite (negative : Bool) (significand : Nat) (exponent : Int)
  deriving DecidableEq

namespace Binary64

/-- The least exponent. -/
def minExponent : Int := -1074

/-- The greatest exponent. -/
def maxExponent : Int := 971

/-- Zero of either sign. -/
def zero (negative : Bool) : Binary64 := .finite negative 0 minExponent

/-- Whether a number is zero. -/
def isZero : Binary64 → Bool
  | finite _ significand _ => significand == 0
  | _ => false

/-- The quotient of natural numbers that is `num / den` measured in units of `2 ^ exponent`. -/
def scale (num den : Nat) (exponent : Int) : Nat × Nat :=
  if 0 ≤ exponent then (num, den * Nat.pow 2 exponent.toNat)
  else (num * Nat.pow 2 (-exponent).toNat, den)

/-- The natural number nearest to a quotient, the even one of two. -/
def nearest (num den : Nat) : Nat :=
  let q := num / den
  let rest := 2 * (num % den)
  if rest < den ∨ (rest = den ∧ q % 2 = 0) then q else q + 1

/-- The exponent in whose units a quotient has 53 digits, or the least exponent. -/
def exponentFor (num den : Nat) : Int :=
  let guess := (num.log2 : Int) - den.log2 - 52
  let (n, d) := scale num den guess
  max minExponent (if n / d < Nat.pow 2 52 then guess - 1 else guess)

/-- The number nearest to a quotient, which is infinite from half a unit above the greatest. -/
def round (negative : Bool) (num den : Nat) : Binary64 :=
  if num = 0 then zero negative
  else
    let exponent := exponentFor num den
    let (n, d) := scale num den exponent
    let significand := nearest n d
    let (significand, exponent) :=
      if significand = Nat.pow 2 53 then (Nat.pow 2 52, exponent + 1) else (significand, exponent)
    if maxExponent < exponent then .infinite negative else .finite negative significand exponent

/-- The number nearest to `digits · 10 ^ exponent`. Beyond 10^310 everything is infinite, and
below 10^(-330) everything is zero, so no power outside that range is ever computed. -/
def ofDecimal (negative : Bool) (digits : Nat) (exponent : Int) : Binary64 :=
  let magnitude := ((Nat.toDigits 10 digits).length : Int) + exponent
  if digits = 0 ∨ magnitude < -330 then zero negative
  else if 310 < magnitude then .infinite negative
  else if 0 ≤ exponent then round negative (digits * Nat.pow 10 exponent.toNat) 1
  else round negative digits (Nat.pow 10 (-exponent).toNat)

/-- The number nearest to a natural number. -/
def ofNat (n : Nat) : Binary64 := round false n 1

/-- The number with the other sign. -/
def neg : Binary64 → Binary64
  | nan payload => nan payload
  | infinite s => infinite (!s)
  | finite s m e => finite (!s) m e

/-- The product of two numbers. -/
def mul : Binary64 → Binary64 → Binary64
  | finite s m e, finite t n f =>
    let sign := s != t
    if 0 ≤ e + f then round sign (m * n * Nat.pow 2 (e + f).toNat) 1
    else round sign (m * n) (Nat.pow 2 (-(e + f)).toNat)
  | nan payload, _ => nan payload
  | _, nan payload => nan payload
  | infinite s, infinite t => infinite (s != t)
  | infinite s, finite t n _ => if n = 0 then nan 0 else infinite (s != t)
  | finite s m _, infinite t => if m = 0 then nan 0 else infinite (s != t)

/-- The integer that a finite number is in units of `2 ^ unit`, for a unit not above its
exponent. -/
def inUnits (negative : Bool) (significand : Nat) (exponent unit : Int) : Int :=
  let n : Nat := significand * Nat.pow 2 (exponent - unit).toNat
  if negative then -n else n

/-- The sum of two numbers. An exact zero is negative only when both numbers are. -/
def add : Binary64 → Binary64 → Binary64
  | finite s m e, finite t n f =>
    let unit := min e f
    let sum := inUnits s m e unit + inUnits t n f unit
    if sum = 0 then zero (s && t && m == 0)
    else if 0 ≤ unit then round (sum < 0) (sum.natAbs * Nat.pow 2 unit.toNat) 1
    else round (sum < 0) sum.natAbs (Nat.pow 2 (-unit).toNat)
  | nan payload, _ => nan payload
  | _, nan payload => nan payload
  | infinite s, infinite t => if s = t then infinite s else nan 0
  | infinite s, finite .. => infinite s
  | finite .., infinite t => infinite t

/-- The number, with a payload if it is none. -/
def withPayload (payload : Nat) : Binary64 → Binary64
  | nan _ => nan payload
  | x => x

/-- The integer that a number is equal to, if there is one. -/
def integer? : Binary64 → Option Int
  | finite s m e =>
    let n := if 0 ≤ e then m * Nat.pow 2 e.toNat else m / Nat.pow 2 (-e).toNat
    if e < 0 ∧ m % Nat.pow 2 (-e).toNat ≠ 0 then none else some (if s then -n else n)
  | _ => none

end Binary64

end JenkinsAdmission
