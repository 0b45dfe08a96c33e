import JenkinsAdmission.Base64
import JenkinsAdmission.Number.Numeral
import JenkinsAdmission.Unicode.LowerCase
import JenkinsAdmission.Value.Basic
import JenkinsAdmission.Yaml.Fault
import JenkinsAdmission.Yaml.Resolution

/-!
# Atoms from scalars

How the text of a scalar becomes an atom, given its tag. The tag may have been written by hand, so
the text need not have the form that the tag stands for. Then there is no atom, and reading breaks
down; only for binary data it is a fault of the stream.
-/

namespace JenkinsAdmission.Yaml

/-- The reading of a scalar that breaks down. -/
def breakDown {α : Type} (cause : Breakdown) : Except Fault α := .error (.broken cause)

/-- A number, or a breakdown where there is none. -/
def numberOr {α : Type} : Option α → Except Fault α
  | some a => .ok a
  | none => breakDown .badNumeral

/-- A text without underscores. -/
def withoutBars (t : Text) : Text := t.filter (· != .scalar '_')

/-- A sign and what follows it. There has to be something to look at. -/
def signOf (t : Text) : Except Fault (Bool × Text) :=
  match t with
  | [] => breakDown .emptyNumeral
  | c :: rest =>
    if c = .scalar '-' then .ok (true, rest)
    else if c = .scalar '+' then .ok (false, rest)
    else .ok (false, t)

/-- The number of which the digits to the base of sixty are given, the first digit first. -/
def sexagesimal (digits : List Int) : Int :=
  digits.foldl (fun n d => n * 60 + d) 0

/-- The sum of floating-point digits times powers of sixty, from the last digit on. Every power has
to be finite, whatever its digit. -/
def sexagesimalFloat (digits : List Binary64) : Except Fault Binary64 := do
  let (sum, _) ← digits.reverse.foldlM (fun (sum, power) d =>
    match Binary64.ofNat power with
    | .infinite _ => breakDown .numberTooLarge
    | unit => .ok (sum.add (d.mul unit), power * 60)) (Binary64.zero false, 1)
  .ok sum

/-- The parts of a text between colons. -/
def colonParts (t : Text) : List Text := t.splitOn (.scalar ':')

/-- The magnitude of an integer. -/
def magnitude (t : Text) : Except Fault Int :=
  if t = "0" then .ok 0
  else if (Text.ofString "0b").isPrefixOf t then numberOr (Numeral.integer? 2 (t.drop 2))
  else if (Text.ofString "0x").isPrefixOf t then numberOr (Numeral.integer? 16 (t.drop 2))
  else
    match t with
    | [] => breakDown .emptyNumeral
    | c :: _ =>
      if c = .scalar '0' then numberOr (Numeral.integer? 8 t)
      else if t.contains (.scalar ':') then
        numberOr (((colonParts t).mapM (Numeral.integer? 10)).map sexagesimal)
      else numberOr (Numeral.integer? 10 t)

/-- An integer: binary, octal, decimal, hexadecimal or sexagesimal. -/
def integerAtom (t : Text) : Except Fault Atom := do
  let (negative, t) ← signOf (withoutBars t)
  let n ← magnitude t
  .ok (.int (if negative then -n else n))

/-- The magnitude of a floating-point number that is written with digits or by its name. -/
def floatMagnitude (t : Text) : Except Fault Binary64 :=
  if t.contains (.scalar ':') then do
    sexagesimalFloat (← numberOr ((colonParts t).mapM Numeral.binary64?))
  else numberOr (Numeral.binary64? t)

/-- A floating-point number, decimal or sexagesimal, or an infinity, or "not a number". There is one
literal for the last; other texts that come to none give each a result of its own, which the place
of the scalar tells apart. -/
def floatAtom (place : Place) (t : Text) : Except Fault Atom := do
  let (negative, t) ← signOf (withoutBars t).lower
  let x ←
    if t = ".inf" then .ok (.infinite false)
    else if t = ".nan" then .ok (.nan 0)
    else (floatMagnitude t).map (·.withPayload (place + 1))
  .ok (.float (if negative then x.neg else x))

/-- A truth value. -/
def boolAtom (t : Text) : Except Fault Atom :=
  let t := t.lower
  if t.isOneOf ["yes", "true", "on"] then .ok (.bool true)
  else if t.isOneOf ["no", "false", "off"] then .ok (.bool false)
  else breakDown .unknownTruthValue

/-- Bytes in base64. -/
def bytesAtom (t : Text) : Except Fault Atom :=
  match t.ascii?.map Base64.decodeLoosely with
  | some (.ok bytes) => .ok (.bytes bytes)
  | _ => .error (.malformed .badBinary)

/-! ## Days and times -/

/-- A number whose count of digits is between two bounds, and what follows it. -/
def boundedNumber? (least most : Nat) (cs : List Char) : Option (Nat × List Char) :=
  (Tag.afterDigits? least most cs).map fun rest =>
    ((Numeral.natural? 10 (cs.takeWhile Char.isDigit)).getD 0, rest)

/-- A timestamp as written. -/
structure Timestamp where
  /-- the year -/
  year : Nat
  /-- the month -/
  month : Nat
  /-- the day -/
  day : Nat
  /-- hour, minute, second, microsecond and offset, if there is a time -/
  time : Option (Nat × Nat × Nat × Nat × Option Int)

/-- Six digits of a fraction. -/
def microseconds (digits : List Char) : Nat :=
  let six := digits.take 6
  (Numeral.natural? 10 (six ++ List.replicate (6 - six.length) '0')).getD 0

/-- An offset, or none, and nothing after it. -/
def offset? (cs : List Char) : Option (Option Int) :=
  if cs.isEmpty then some none
  else
    match cs.dropWhile fun c => c == ' ' || c == '\t' with
    | ['Z'] => some (some 0)
    | s :: rest => do
      let (hours, rest) ← boundedNumber? 1 2 rest
      let minutes ←
        match rest with
        | [] => some 0
        | ':' :: rest =>
          match boundedNumber? 2 2 rest with
          | some (m, []) => some m
          | _ => none
        | _ => none
      let total : Int := (hours * 60 + minutes : Nat)
      if s = '+' then some (some total) else if s = '-' then some (some (-total)) else none
    | [] => none

/-- A time, after the day. -/
def time? (cs : List Char) : Option (Nat × Nat × Nat × Nat × Option Int) := do
  let cs ← Tag.afterSeparator? cs
  let (hour, cs) ← boundedNumber? 1 2 cs
  let (minute, cs) ← boundedNumber? 2 2 (← Tag.after? ':' cs)
  let (second, cs) ← boundedNumber? 2 2 (← Tag.after? ':' cs)
  let (fraction, cs) :=
    match cs with
    | '.' :: rest => (rest.takeWhile Char.isDigit, rest.dropWhile Char.isDigit)
    | _ => ([], cs)
  let offset ← offset? cs
  some (hour, minute, second, microseconds fraction, offset)

/-- A timestamp as written. Month and day may have one digit. -/
def timestamp? (cs : List Char) : Option Timestamp := do
  let (year, cs) ← boundedNumber? 4 4 cs
  let (month, cs) ← boundedNumber? 1 2 (← Tag.after? '-' cs)
  let (day, cs) ← boundedNumber? 1 2 (← Tag.after? '-' cs)
  if cs.isEmpty then some ⟨year, month, day, none⟩
  else some ⟨year, month, day, some (← time? cs)⟩

/-- A day or a time. -/
def timestampAtom (t : Text) : Except Fault Atom :=
  match t.chars?.bind fun cs => timestamp? (Tag.significant cs) with
  | none => breakDown .noTimestamp
  | some s =>
    match Date.of? s.year s.month s.day, s.time with
    | none, _ => breakDown .outsideCalendar
    | some date, none => .ok (.date date)
    | some date, some (hour, minute, second, micro, offset) =>
      match DateTime.of? date hour minute second micro offset with
      | some time => .ok (.dateTime time)
      | none => breakDown .outsideCalendar

end JenkinsAdmission.Yaml
