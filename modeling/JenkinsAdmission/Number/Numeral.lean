import JenkinsAdmission.Number.Binary64
import JenkinsAdmission.Unicode.Numeric

/-!
# Numerals

How a text is read as a number: blanks around it do not count, and the decimal digits of every
script do.

* `Numeral.integer?` reads an integer in a base, with a sign and the customary mark of the base.
* `Numeral.binary64?` reads a decimal number with an optional exponent, or the name of an infinity
  or of "not a number".
-/

namespace JenkinsAdmission.Numeral

/-- The longest decimal numeral that is converted between text and an integer. -/
def maxDigits : Nat := 4300

/-- The ASCII form of a code point of a numeral. -/
def asciiForm? (c : CodePoint) : Option Char :=
  if c.code < 127 then some (Char.ofNat c.code)
  else if c.isBlank then some ' '
  else c.decimalValue?.map fun v => Char.ofNat (v + 48)

/-- The blanks of ASCII. -/
def isSpace (c : Char) : Bool :=
  c == ' ' || (decide (9 ≤ c.toNat) && decide (c.toNat ≤ 13))

/-- The ASCII form of a numeral without the blanks around it. -/
def trimmed? (t : Text) : Option (List Char) :=
  (t.mapM asciiForm?).map fun cs =>
    ((cs.dropWhile isSpace).reverse.dropWhile isSpace).reverse

/-- A sign and what follows it; no sign is a plus. -/
def sign : List Char → Bool × List Char
  | '-' :: rest => (true, rest)
  | '+' :: rest => (false, rest)
  | cs => (false, cs)

/-- The value of a digit of any base up to sixteen. -/
def digit? (c : Char) : Option Nat :=
  if c.isDigit then some (c.toNat - 48)
  else if 'a' ≤ c ∧ c ≤ 'f' then some (c.toNat - 'a'.toNat + 10)
  else if 'A' ≤ c ∧ c ≤ 'F' then some (c.toNat - 'A'.toNat + 10)
  else none

/-- The value of a non-empty sequence of digits. -/
def natural? (base : Nat) (cs : List Char) : Option Nat :=
  if cs.isEmpty then none
  else
    cs.foldlM (fun n c => do
      let d ← digit? c
      if d < base then some (n * base + d) else none) 0

/-- What follows the mark of a base, if it is there. -/
def afterMark (base : Nat) (cs : List Char) : List Char :=
  match cs with
  | '0' :: m :: rest =>
    if (base = 2 ∧ m.toLower = 'b') ∨ (base = 8 ∧ m.toLower = 'o') ∨ (base = 16 ∧ m.toLower = 'x')
    then rest else cs
  | _ => cs

/-- The integer that a text stands for. A decimal numeral of more digits than `maxDigits` is
refused. -/
def integer? (base : Nat) (t : Text) : Option Int := do
  let (negative, cs) := sign (← trimmed? t)
  let cs := afterMark base cs
  if base = 10 ∧ maxDigits < cs.length then none
  else
    let n ← natural? base cs
    some (if negative then -n else n)

/-- The digits at the start of a sequence, and what follows them. -/
def digits (cs : List Char) : List Char × List Char :=
  (cs.takeWhile Char.isDigit, cs.dropWhile Char.isDigit)

/-- An exponent, which is zero if absent. -/
def exponent? : List Char → Option Int
  | [] => some 0
  | e :: rest => do
    let (negative, cs) := sign rest
    let n ← if e.toLower = 'e' ∧ cs.all Char.isDigit then natural? 10 cs else none
    some (if negative then -n else n)

/-- The magnitude of a decimal number, with its sign given. -/
def decimal? (negative : Bool) (cs : List Char) : Option Binary64 := do
  let (whole, rest) := digits cs
  let (fraction, rest) :=
    match rest with
    | '.' :: rest => digits rest
    | rest => ([], rest)
  let n ← natural? 10 (whole ++ fraction)
  let e ← exponent? rest
  some (Binary64.ofDecimal negative n (e - fraction.length))

/-- The floating-point number that a text stands for. -/
def binary64? (t : Text) : Option Binary64 := do
  let (negative, cs) := sign (← trimmed? t)
  let name := String.ofList (cs.map Char.toLower)
  if name = "inf" ∨ name = "infinity" then some (.infinite negative)
  else if name = "nan" then some (.nan 0)
  else decimal? negative cs

end JenkinsAdmission.Numeral
