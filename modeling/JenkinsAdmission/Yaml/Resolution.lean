import JenkinsAdmission.Unicode.CodePoint

/-!
# Tags and their resolution

A plain scalar gets its tag from its text: it is a null, a truth value, a number, a day, a time or
one of two indicators if it has the form of one, and a string otherwise. The forms are those of
version 1.1 of the format; a line end at the end of the text is not looked at.
-/

namespace JenkinsAdmission.Yaml.Tag

/-- The tag of the standard repertoire with a name. -/
def standard (name : String) : String := "tag:yaml.org,2002:" ++ name

/-- The tag that leaves the resolution open. -/
def nonSpecific : String := "!"
/-- The tag of the null value. -/
def null : String := standard "null"
/-- The tag of truth values. -/
def bool : String := standard "bool"
/-- The tag of integers. -/
def int : String := standard "int"
/-- The tag of floating-point numbers. -/
def float : String := standard "float"
/-- The tag of days and times. -/
def timestamp : String := standard "timestamp"
/-- The tag of bytes in base64. -/
def binary : String := standard "binary"
/-- The tag of strings. -/
def str : String := standard "str"
/-- The tag of sequences. -/
def seq : String := standard "seq"
/-- The tag of mappings. -/
def map : String := standard "map"
/-- The tag of mappings whose values are null. -/
def set : String := standard "set"
/-- The tag of sequences of mappings of one entry, without repetition. -/
def omap : String := standard "omap"
/-- The tag of sequences of mappings of one entry. -/
def pairs : String := standard "pairs"
/-- The tag of the key that merges mappings. -/
def merge : String := standard "merge"
/-- The tag of the key of a default value. -/
def value : String := standard "value"
/-- The tag of indicators that stand alone. -/
def indicator : String := standard "yaml"

/-! ## Forms of plain scalars -/

/-- Digits and underscores. -/
def isDigitOrBar (c : Char) : Bool := c.isDigit || c == '_'

/-- Whether a text is one of the given words. -/
def isWord (words : List String) (cs : List Char) : Bool :=
  words.contains (String.ofList cs)

/-- A text without its sign. -/
def unsigned : List Char → List Char
  | '-' :: rest => rest
  | '+' :: rest => rest
  | cs => cs

/-- A digit, then digits and underscores. -/
def isNumeral : List Char → Bool
  | c :: rest => c.isDigit && rest.all isDigitOrBar
  | [] => false

/-- Parts of a text between colons. -/
def colonParts (cs : List Char) : List (List Char) := cs.splitOn ':'

/-- A number below sixty in one or two digits. -/
def isSixtieth : List Char → Bool
  | [a] => a.isDigit
  | [a, b] => decide ('0' ≤ a) && decide (a ≤ '5') && b.isDigit
  | _ => false

/-- Numbers to the base of sixty, of which the first is given by its form. -/
def isSexagesimal (first : List Char → Bool) (cs : List Char) : Bool :=
  match colonParts cs with
  | head :: part :: parts => first head && (part :: parts).all isSixtieth
  | _ => false

/-- An integer without its sign: binary, octal, decimal, hexadecimal or sexagesimal. -/
def isUnsignedInteger (cs : List Char) : Bool :=
  match cs with
  | ['0'] => true
  | '0' :: 'b' :: c :: rest => (c :: rest).all fun d => d == '0' || d == '1' || d == '_'
  | '0' :: 'x' :: c :: rest =>
    (c :: rest).all fun d => isDigitOrBar d || ("abcdefABCDEF".toList.contains d)
  | '0' :: c :: rest => (c :: rest).all fun d => (decide ('0' ≤ d) && decide (d ≤ '7')) || d == '_'
  | c :: _ => c != '0' && (isNumeral cs || isSexagesimal isNumeral cs)
  | [] => false

/-- An exponent with its sign, or nothing. -/
def isExponent : List Char → Bool
  | [] => true
  | e :: s :: c :: rest =>
    (e == 'e' || e == 'E') && (s == '+' || s == '-') && (c :: rest).all Char.isDigit
  | _ => false

/-- Digits and underscores after a point, then perhaps an exponent. -/
def isFraction (cs : List Char) : Bool :=
  isExponent (cs.dropWhile isDigitOrBar)

/-- A floating-point number. -/
def isFloat (cs : List Char) : Bool :=
  let magnitude := unsigned cs
  let whole := magnitude.takeWhile (· != '.')
  let fraction := (magnitude.dropWhile (· != '.')).tail
  let pointed := magnitude.contains '.'
  (pointed && isNumeral whole && isFraction fraction)
    || (pointed && isSexagesimal isNumeral whole && fraction.all isDigitOrBar)
    || (match cs with
      | '.' :: c :: rest => c.isDigit && isFraction (c :: rest)
      | _ => false)
    || isWord [".inf", ".Inf", ".INF"] magnitude
    || isWord [".nan", ".NaN", ".NAN"] cs

/-- Whether a text has as many digits as one of the lengths allows, before a character or the end;
what follows them. -/
def afterDigits? (least most : Nat) (cs : List Char) : Option (List Char) :=
  let n := (cs.takeWhile Char.isDigit).length
  if least ≤ n ∧ n ≤ most then some (cs.drop n) else none

/-- What follows a character. -/
def after? (c : Char) : List Char → Option (List Char)
  | d :: rest => if c = d then some rest else none
  | [] => none

/-- Whether a text is the end of a time: a fraction and an offset, both of which may be left
out. -/
def isTimeEnd (cs : List Char) : Bool :=
  let cs :=
    match cs with
    | '.' :: rest => rest.dropWhile Char.isDigit
    | _ => cs
  if cs.isEmpty then true
  else
    match cs.dropWhile fun c => c == ' ' || c == '\t' with
    | ['Z'] => true
    | s :: rest =>
      (s == '+' || s == '-') &&
        match afterDigits? 1 2 rest with
        | none => false
        | some [] => true
        | some (':' :: [a, b]) => a.isDigit && b.isDigit
        | some _ => false
    | [] => false

/-- What follows the separator between a day and a time. -/
def afterSeparator? : List Char → Option (List Char)
  | 'T' :: rest => some rest
  | 't' :: rest => some rest
  | c :: rest =>
    if c = ' ' ∨ c = '\t' then some (rest.dropWhile fun d => d == ' ' || d == '\t') else none
  | [] => none

/-- A day, or a day and a time. A day alone has two digits for month and day. -/
def isTimestamp (cs : List Char) : Bool :=
  let day (least : Nat) := do
    let rest ← afterDigits? 4 4 cs
    let rest ← afterDigits? least 2 (← after? '-' rest)
    afterDigits? least 2 (← after? '-' rest)
  let time := do
    let rest ← afterSeparator? (← day 1)
    let rest ← afterDigits? 1 2 rest
    let rest ← afterDigits? 2 2 (← after? ':' rest)
    afterDigits? 2 2 (← after? ':' rest)
  day 2 == some [] || time.any isTimeEnd

/-- The tag of a text, by its form. -/
def ofForm (cs : List Char) : String :=
  if isWord ["yes", "Yes", "YES", "no", "No", "NO", "true", "True", "TRUE", "false", "False",
      "FALSE", "on", "On", "ON", "off", "Off", "OFF"] cs then bool
  else if isFloat cs then float
  else if isUnsignedInteger (unsigned cs) then int
  else if isWord ["<<"] cs then merge
  else if isWord ["", "~", "null", "Null", "NULL"] cs then null
  else if isTimestamp cs then timestamp
  else if isWord ["="] cs then value
  else if isWord ["!", "&", "*"] cs then indicator
  else str

/-- The text that counts for the form: less one line end at its end. A text that is nothing but a
line end has no form. -/
def significant (cs : List Char) : List Char :=
  match cs.reverse with
  | '\n' :: c :: rest => (c :: rest).reverse
  | _ => cs

/-- The tag that a text resolves to. -/
def resolve (t : Text) : String :=
  match t.chars? with
  | some cs => ofForm (significant cs)
  | none => str

end JenkinsAdmission.Yaml.Tag
