import JenkinsAdmission.Unicode.Printable
import JenkinsAdmission.Unicode.Utf8

/-!
# Quoted texts and bytes

A text inside another value is written between quotes: single ones, unless the text has a single
quote and no double one. The backslash and the quote are escaped by a backslash, line feed,
carriage return and tab by their letters, and everything that is not printable by its number, in
the shortest of the forms of two, four and eight hexadecimal digits.
-/

namespace JenkinsAdmission

/-- The hexadecimal numeral of a number in a fixed width. -/
def hexadecimal (width n : Nat) : Text :=
  let digits := Nat.toDigits 16 n
  Text.ofChars (List.replicate (width - digits.length) '0' ++ digits)

/-- The quote to put around a text. -/
def quoteFor (t : Text) : CodePoint :=
  if t.contains (.scalar '\'') && !t.contains (.scalar '"') then .scalar '"' else .scalar '\''

/-- The escape of a code point by its number. -/
def numericEscape (n : Nat) : Text :=
  if n < 0x100 then "\\x" ++ hexadecimal 2 n
  else if n < 0x10000 then "\\u" ++ hexadecimal 4 n
  else "\\U" ++ hexadecimal 8 n

/-- A code point between quotes. -/
def quotedCodePoint (quote : CodePoint) (printable : CodePoint → Bool) (c : CodePoint) : Text :=
  if c = quote ∨ c = .scalar '\\' then [.scalar '\\', c]
  else if c = .scalar '\n' then "\\n"
  else if c = .scalar '\r' then "\\r"
  else if c = .scalar '\t' then "\\t"
  else if printable c then [c]
  else numericEscape c.code

/-- A text between quotes. -/
def Text.quoted (t : Text) : Text :=
  let quote := quoteFor t
  quote :: t.flatMap (quotedCodePoint quote CodePoint.isPrintable) ++ [quote]

/-- Bytes between quotes after the letter `b`. Only printable ASCII stands for itself. -/
def Bytes.quoted (b : Bytes) : Text :=
  let t := Text.ofAscii b
  let quote := quoteFor t
  .scalar 'b' :: quote
    :: t.flatMap (quotedCodePoint quote fun c => decide (0x20 ≤ c.code) && decide (c.code < 0x7F))
      ++ [quote]

end JenkinsAdmission
