/-!
# Code points and text

A YAML escape can name any code point, a surrogate included, and such a text travels through
names and messages like any other until somebody asks for its bytes. So the alphabet of this
library is the **code point**, not the character:

* `CodePoint` is a Unicode scalar value or a lone surrogate;
* `Text` is a list of code points, and string literals are read as texts;
* `Text.le` is the order by code point, which is the order of every sorted listing.
-/

namespace JenkinsAdmission

/-- A Unicode code point. -/
inductive CodePoint
  /-- a scalar value -/
  | scalar (c : Char)
  /-- the surrogate `0xD800 + s` -/
  | surrogate (s : Fin 0x800)
  deriving DecidableEq

/-- A sequence of code points. -/
abbrev Text := List CodePoint

namespace CodePoint

/-- The number of a code point. -/
def code : CodePoint → Nat
  | scalar c => c.toNat
  | surrogate s => 0xD800 + s

/-- The code point of a number, if there is one. -/
def ofNat? (n : Nat) : Option CodePoint :=
  if h : n.isValidChar then some (scalar ⟨n.toUInt32, by
    have : n < UInt32.size := by
      rcases h with h | h <;> simp [UInt32.size] <;> omega
    simpa [UInt32.isValidChar, Nat.mod_eq_of_lt this] using h⟩)
  else if h : 0xD800 ≤ n ∧ n < 0xE000 then some (surrogate ⟨n - 0xD800, by omega⟩)
  else none

/-- The code point of a number, and the replacement character for a number that has none. -/
def ofNat (n : Nat) : CodePoint :=
  (ofNat? n).getD (scalar '\ufffd')

/-- Membership in a table of inclusive ranges. -/
def inRanges (c : CodePoint) (ranges : List (Nat × Nat)) : Bool :=
  ranges.any fun r => decide (r.1 ≤ c.code) && decide (c.code ≤ r.2)

/-- Whether the code point is one of the first 128. -/
def isAscii (c : CodePoint) : Bool :=
  decide (c.code < 0x80)

end CodePoint

namespace Text

/-- The text of a string, which has no surrogates. -/
def ofString (s : String) : Text :=
  s.toList.map .scalar

instance : Coe String Text := ⟨ofString⟩

/-- The text of a list of characters. -/
def ofChars (cs : List Char) : Text :=
  cs.map .scalar

/-- The decimal numeral of a natural number. -/
def ofNat (n : Nat) : Text :=
  ofChars (Nat.toDigits 10 n)

/-- The decimal numeral of an integer, with a minus sign when it is negative. -/
def ofInt (i : Int) : Text :=
  if i < 0 then .scalar '-' :: ofNat i.natAbs else ofNat i.natAbs

/-- The characters of a text that has no lone surrogate. -/
def chars? (t : Text) : Option (List Char) :=
  t.mapM fun
    | .scalar c => some c
    | .surrogate _ => none

/-- Texts are ordered as sequences of code points. -/
def le : Text → Text → Bool
  | [], _ => true
  | _ :: _, [] => false
  | a :: s, b :: t => decide (a.code < b.code) || (a == b && le s t)

/-- The texts of a list with a separator between neighbours. -/
def join (separator : Text) : List Text → Text
  | [] => []
  | [t] => t
  | t :: u :: rest => t ++ separator ++ join separator (u :: rest)

/-- Whether a text is among the words of a list. -/
def isOneOf (t : Text) (words : List String) : Bool :=
  words.any fun w => t == ofString w

end Text

end JenkinsAdmission
