import JenkinsAdmission.Number.Numeral
import JenkinsAdmission.Number.Shortest
import JenkinsAdmission.Platform
import JenkinsAdmission.Value.Quoted

/-!
# The text of a value

How a value is written where a text is wanted: in a name, a message or the data of a secret. A text
stands for itself, a day and a time for their ISO forms, and every other value for its **literal**,
which is also how values are written inside containers. A container that turns up inside itself is
cut short with an ellipsis. Which of its members a set lists first is up to whoever made the set.

Writing breaks down in two cases: at an integer of more than `Numeral.maxDigits` digits, and where
more values stand inside one another than the depth of the platform. So a text has a cause where it
has no value; `Value.written?` is for those who do not ask for the cause.
-/

namespace JenkinsAdmission

/-- The numeral of an integer, unless it is too long. -/
def integerText? (i : Int) : Option Text :=
  if (Nat.toDigits 10 i.natAbs).length ≤ Numeral.maxDigits then some (Text.ofInt i) else none

/-- The arguments of a call, in parentheses. -/
def call (name : Text) (arguments : List Text) : Text :=
  name ++ "(" ++ Text.join ", " arguments ++ ")"

/-- The literal of a day. -/
def Date.literal (d : Date) : Text :=
  call "datetime.date" ([d.year, d.month, d.day].map Text.ofNat)

/-- The literal of an offset in minutes. Days may be negative, seconds may not. -/
def DateTime.offsetLiteral (minutes : Int) : Text :=
  if minutes = 0 then "datetime.timezone.utc"
  else
    let days := minutes / 1440
    let seconds := minutes % 1440 * 60
    let parts : List Text :=
      (if days = 0 then [] else [("days=" : Text) ++ Text.ofInt days])
        ++ (if seconds = 0 then [] else [("seconds=" : Text) ++ Text.ofInt seconds])
    call "datetime.timezone" [call "datetime.timedelta" parts]

/-- The literal of a time. Seconds and microseconds are left out from the right while they are
zero. -/
def DateTime.literal (t : DateTime) : Text :=
  let fraction :=
    if t.microsecond ≠ 0 then [t.second, t.microsecond]
    else if t.second ≠ 0 then [t.second]
    else []
  let numbers := [t.date.year, t.date.month, t.date.day, t.hour, t.minute] ++ fraction
  call "datetime.datetime" (numbers.map Text.ofNat
    ++ t.offset.toList.map fun o => ("tzinfo=" : Text) ++ offsetLiteral o)

/-- The literal of an atom. -/
def Atom.literal : Atom → Except Breakdown Text
  | null => .ok "None"
  | bool b => .ok (if b then "True" else "False")
  | int i =>
    match integerText? i with
    | some t => .ok t
    | none => .error .numeralTooLong
  | float x => .ok x.text
  | text t => .ok t.quoted
  | date d => .ok d.literal
  | dateTime t => .ok t.literal
  | bytes b => .ok b.quoted

/-- The literal of an atom inside other values. -/
def Atom.literalWithin (depth : Nat) (a : Atom) : Except Breakdown Text :=
  if depth = 0 then .error .tooDeep else a.literal

/-- The text of an atom. -/
def Atom.written : Atom → Except Breakdown Text
  | text t => .ok t
  | date d => .ok d.iso
  | dateTime t => .ok (t.iso " ")
  | a => a.literal

/-- The text of an atom, if it can be written. -/
def Atom.text? (a : Atom) : Option Text := a.written.toOption

namespace Value

/-- Parts between brackets. -/
def bracket (opening closing : Text) (parts : List Text) : Text :=
  opening ++ Text.join ", " parts ++ closing

/-- The literal of a set, which is written by way of a list of its members. -/
def setLiteralWithin (depth : Nat) (members : List Atom) : Except Breakdown Text :=
  if members.isEmpty then .ok "set()"
  else if depth = 0 then .error .tooDeep
  else (members.mapM (Atom.literalWithin (depth - 1))).map (bracket "\x7b" "\x7d")

/-- The literal of a value inside the containers at the given places. -/
def literalWithin (depth : Nat) (above : List Place) (v : Value) : Except Breakdown Text :=
  match depth with
  | 0 => .error .tooDeep
  | depth + 1 =>
    let cyclic := above.contains v.place
    match v.view with
    | .atom a => a.literal
    | .list items =>
      if cyclic then .ok "[...]"
      else (items.mapM (literalWithin depth (v.place :: above))).map (bracket "[" "]")
    | .mapping entries =>
      if cyclic then .ok ("\x7b...\x7d" : Text)
      else
        (entries.mapM fun entry : Atom × Value => do
          let key ← entry.1.literalWithin depth
          let item ← literalWithin depth (v.place :: above) entry.2
          pure (key ++ ": " ++ item)).map (bracket "\x7b" "\x7d")
    | .pairs items =>
      if cyclic then .ok "[...]"
      else
        -- a pair is a container as well
        match depth with
        | 0 => if items.isEmpty then .ok "[]" else .error .tooDeep
        | depth + 1 =>
          (items.mapM fun pair : Value × Value => do
            let first ← literalWithin depth (v.place :: above) pair.1
            let second ← literalWithin depth (v.place :: above) pair.2
            pure (bracket "(" ")" [first, second])).map (bracket "[" "]")
    | .set members => setLiteralWithin depth members

variable [Platform]

/-- The literal of a value. -/
def literal (v : Value) : Except Breakdown Text :=
  v.literalWithin Platform.depth []

/-- The text of a value. -/
def written (v : Value) : Except Breakdown Text :=
  match v.view with
  | .atom a => a.written
  | _ => v.literal

/-- The text of a value, if it can be written. -/
def written? (v : Value) : Option Text := v.written.toOption

end Value

end JenkinsAdmission
