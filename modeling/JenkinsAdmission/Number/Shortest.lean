import JenkinsAdmission.Number.Binary64
import JenkinsAdmission.Unicode.CodePoint

/-!
# Shortest decimal form

A floating-point number is written with the fewest decimal digits that read back as the same
number, and of the candidates with that many digits, with the one nearest to it.

The reals that round to a number form an interval, whose ends belong to it when the significand is
even. A grid of decimals of `n` digits meets the interval exactly when one of the two neighbours of
the number on the grid lies in it, so it is enough to test those for `n = 1, 2, …, 17`.
-/

namespace JenkinsAdmission.Binary64

/-- A decimal number `digits · 10 ^ exponent`. -/
structure Decimal where
  /-- the digits -/
  digits : Nat
  /-- the power of ten of the last digit -/
  exponent : Int
  deriving DecidableEq

/-- A positive real as a quotient. -/
structure Ratio where
  /-- the numerator -/
  num : Nat
  /-- the denominator -/
  den : Nat

/-- `m · 2 ^ e`. -/
def Ratio.ofBinary (m : Nat) (e : Int) : Ratio :=
  if 0 ≤ e then ⟨m * Nat.pow 2 e.toNat, 1⟩ else ⟨m, Nat.pow 2 (-e).toNat⟩

/-- The power of ten of the first digit of a positive quotient. -/
def Ratio.order (r : Ratio) : Int :=
  if r.den ≤ r.num then ((Nat.toDigits 10 (r.num / r.den)).length : Int) - 1
  else
    let ceiling := (r.den + r.num - 1) / r.num
    Int.negOfNat (Nat.toDigits 10 (ceiling - 1)).length

/-- A quotient in units of `10 ^ exponent`. -/
def Ratio.scale (r : Ratio) (exponent : Int) : Ratio :=
  if 0 ≤ exponent then ⟨r.num, r.den * Nat.pow 10 exponent.toNat⟩
  else ⟨r.num * Nat.pow 10 (-exponent).toNat, r.den⟩

/-- The reals that round to a number. -/
structure Interval where
  /-- the lower end -/
  low : Ratio
  /-- the upper end -/
  high : Ratio
  /-- whether the ends belong to it -/
  closed : Bool

/-- The interval of the number `m · 2 ^ e`. Below a power of two the neighbour is only half as far
away. -/
def Interval.of (m : Nat) (e : Int) : Interval :=
  let low :=
    if m = Nat.pow 2 52 ∧ minExponent < e then Ratio.ofBinary (4 * m - 1) (e - 2)
    else Ratio.ofBinary (2 * m - 1) (e - 1)
  ⟨low, Ratio.ofBinary (2 * m + 1) (e - 1), m % 2 == 0⟩

/-- Whether a natural number of units `10 ^ exponent` lies in the interval. -/
def Interval.contains (i : Interval) (n : Nat) (exponent : Int) : Bool :=
  let low := i.low.scale exponent
  let high := i.high.scale exponent
  if i.closed then decide (low.num ≤ n * low.den) && decide (n * high.den ≤ high.num)
  else decide (low.num < n * low.den) && decide (n * high.den < high.num)

/-- The nearer of the two neighbours on the grid of `10 ^ exponent` that lies in the interval. -/
def Interval.onGrid? (i : Interval) (value : Ratio) (exponent : Int) : Option Decimal :=
  let v := value.scale exponent
  let below := v.num / v.den
  let rest := 2 * (v.num % v.den)
  let preferred := if rest < v.den ∨ (rest = v.den ∧ below % 2 = 0) then below else below + 1
  let alternative := if preferred = below then below + 1 else below
  if i.contains preferred exponent then some ⟨preferred, exponent⟩
  else if i.contains alternative exponent then some ⟨alternative, exponent⟩
  else none

/-- The shortest decimal of the positive number `m · 2 ^ e`. Seventeen digits are always enough. -/
def shortest (m : Nat) (e : Int) : Decimal :=
  let value := Ratio.ofBinary m e
  let interval := Interval.of m e
  let order := value.order
  ((List.range 17).findSome? fun n : Nat => interval.onGrid? value (order - n)).getD ⟨0, 0⟩

/-! ## Layout -/

/-- How a decimal number is laid out. -/
structure Layout where
  /-- the least power of ten of the first digit that is written positionally -/
  leastPositional : Int
  /-- the least power of ten of the first digit that is too great to be written positionally -/
  greatestPositional : Int
  /-- the number of digits that an exponent has at least -/
  exponentWidth : Nat

/-- Positional from `0.0001` to below `1e+16`, always with a digit after the point, and otherwise
with a signed exponent of two digits or more. -/
def Layout.standard : Layout := ⟨-4, 16, 2⟩

/-- The digits of a decimal number without the zeros at the end, and the power of ten of the
first. -/
def Decimal.significant (d : Decimal) : List Char × Int :=
  let digits := Nat.toDigits 10 d.digits
  let trimmed := (digits.reverse.dropWhile (· == '0')).reverse
  (if trimmed.isEmpty then ['0'] else trimmed, d.exponent + digits.length - 1)

/-- A decimal number in a layout. -/
def Layout.write (l : Layout) (d : Decimal) : List Char :=
  let (digits, order) := d.significant
  if l.leastPositional ≤ order ∧ order < l.greatestPositional then
    if order < 0 then '0' :: '.' :: List.replicate (-order - 1).toNat '0' ++ digits
    else
      let whole := digits.take (order + 1).toNat
      let zeros := List.replicate ((order + 1).toNat - digits.length) '0'
      let fraction := digits.drop (order + 1).toNat
      whole ++ zeros ++ '.' :: (if fraction.isEmpty then ['0'] else fraction)
  else
    let mantissa :=
      match digits with
      | d :: e :: rest => d :: '.' :: e :: rest
      | _ => digits
    let exponent := Nat.toDigits 10 order.natAbs
    mantissa ++ ['e', if order < 0 then '-' else '+']
      ++ List.replicate (l.exponentWidth - exponent.length) '0' ++ exponent

/-- The text of a number. -/
def text : Binary64 → Text
  | nan _ => "nan"
  | infinite s => if s then "-inf" else "inf"
  | finite s m e =>
    let digits :=
      if m = 0 then ['0', '.', '0'] else Layout.standard.write (shortest m e)
    Text.ofChars (if s then '-' :: digits else digits)

end JenkinsAdmission.Binary64
