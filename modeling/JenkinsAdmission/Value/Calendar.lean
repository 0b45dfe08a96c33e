import JenkinsAdmission.Unicode.CodePoint

/-!
# Dates and times

Days of the Gregorian calendar from year 1 to year 9999, and times on them to the microsecond, with
or without an offset from universal time in minutes. Values outside the calendar are never built:
`Date.of?` and `DateTime.of?` refuse them.
-/

namespace JenkinsAdmission

/-- A decimal numeral with zeros in front up to a width. -/
def paddedNumeral (width n : Nat) : Text :=
  let digits := Nat.toDigits 10 n
  Text.ofChars (List.replicate (width - digits.length) '0' ++ digits)

/-- A day. -/
structure Date where
  /-- the year -/
  year : Nat
  /-- the month, counted from one -/
  month : Nat
  /-- the day of the month, counted from one -/
  day : Nat
  deriving DecidableEq

namespace Date

/-- Whether a year has a 29th of February. -/
def isLeap (year : Nat) : Bool :=
  year % 4 == 0 && (year % 100 != 0 || year % 400 == 0)

/-- The number of days of a month. -/
def daysIn (year month : Nat) : Nat :=
  if month = 2 then if isLeap year then 29 else 28
  else if month = 4 ∨ month = 6 ∨ month = 9 ∨ month = 11 then 30
  else 31

/-- The day of a year, a month and a day of the month, if the calendar has it. -/
def of? (year month day : Nat) : Option Date :=
  if 1 ≤ year ∧ year ≤ 9999 ∧ 1 ≤ month ∧ month ≤ 12 ∧ 1 ≤ day ∧ day ≤ daysIn year month then
    some ⟨year, month, day⟩
  else none

/-- The number of days from the first day of year 1. -/
def ordinal (d : Date) : Nat :=
  let y := d.year - 1
  y * 365 + y / 4 - y / 100 + y / 400
    + (List.range (d.month - 1)).foldl (fun days m => days + daysIn d.year (m + 1)) 0 + (d.day - 1)

/-- `2001-12-14`. -/
def iso (d : Date) : Text :=
  paddedNumeral 4 d.year ++ "-" ++ paddedNumeral 2 d.month ++ "-" ++ paddedNumeral 2 d.day

end Date

/-- A time on a day. -/
structure DateTime where
  /-- the day -/
  date : Date
  /-- the hour -/
  hour : Nat
  /-- the minute -/
  minute : Nat
  /-- the second -/
  second : Nat
  /-- the microsecond -/
  microsecond : Nat
  /-- the offset from universal time in minutes, where one is known -/
  offset : Option Int
  deriving DecidableEq

namespace DateTime

/-- The time of the given parts, if they are in range. An offset is less than a day. -/
def of? (date : Date) (hour minute second microsecond : Nat) (offset : Option Int) :
    Option DateTime :=
  if hour < 24 ∧ minute < 60 ∧ second < 60 ∧ microsecond < 1000000
      ∧ offset.all (fun o => decide (o.natAbs < 1440)) then
    some ⟨date, hour, minute, second, microsecond, offset⟩
  else none

/-- The number of microseconds from the start of year 1, in universal time if the offset is
known. -/
def instant (t : DateTime) : Int :=
  let minutes : Int := (t.date.ordinal * 24 + t.hour : Nat) * 60 + t.minute - t.offset.getD 0
  (minutes * 60 + t.second) * 1000000 + t.microsecond

/-- Whether two times are the same instant. A time of known offset is never the same as one of
unknown offset. -/
def same (s t : DateTime) : Bool :=
  s.offset.isSome == t.offset.isSome && s.instant == t.instant

/-- `-05:00`. -/
def isoOffset (minutes : Int) : Text :=
  (if minutes < 0 then "-" else "+" : Text) ++ paddedNumeral 2 (minutes.natAbs / 60) ++ ":"
    ++ paddedNumeral 2 (minutes.natAbs % 60)

/-- `2001-12-14T21:59:43.100000-05:00` with a separator of choice. The fraction is left out when it
is zero. -/
def iso (separator : Text) (t : DateTime) : Text :=
  let fraction : Text := if t.microsecond = 0 then [] else "." ++ paddedNumeral 6 t.microsecond
  let offset : Text :=
    match t.offset with
    | none => []
    | some o => isoOffset o
  t.date.iso ++ separator ++ paddedNumeral 2 t.hour ++ ":" ++ paddedNumeral 2 t.minute ++ ":"
    ++ paddedNumeral 2 t.second ++ fraction ++ offset

end DateTime

end JenkinsAdmission
