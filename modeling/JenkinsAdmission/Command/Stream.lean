import JenkinsAdmission.Value.Quoted

/-!
# Text on a stream

What a text looks like on a stream that is no terminal. Three things cannot go there as they are.

* A **control sequence** tells a terminal what to do. It starts with an escape and an opening
  bracket, and it is left out.
* A lone surrogate has no bytes, and a backslash and its number stand for it.
* A line ends with a line feed alone.
-/

namespace JenkinsAdmission.Stream

/-- The code points of a range. -/
def isWithin (low high : Char) (c : CodePoint) : Bool :=
  decide (low.toNat ≤ c.code) && decide (c.code ≤ high.toNat)

/-- Digits and separators of the numbers in a control sequence. -/
def isParameter (c : CodePoint) : Bool := isWithin '0' '?' c

/-- What may stand between the numbers of a control sequence and its end. -/
def isIntermediate (c : CodePoint) : Bool := isWithin ' ' '/' c

/-- What ends a control sequence. -/
def isFinal (c : CodePoint) : Bool := isWithin '@' '~' c

/-- The number of code points that finish a control sequence after its escape. -/
def controlLength? : Text → Option Nat
  | .scalar '[' :: t =>
    let afterParameters := t.dropWhile isParameter
    match afterParameters.dropWhile isIntermediate with
    | c :: rest => if isFinal c then some (t.length - rest.length + 1) else none
    | [] => none
  | _ => none

/-- A text without its control sequences, and without some code points in front. -/
def withoutControlsAfter (passed : Nat) : Text → Text
  | [] => []
  | c :: rest =>
    match passed with
    | n + 1 => withoutControlsAfter n rest
    | 0 =>
      match if c = .scalar '\x1b' then controlLength? rest else none with
      | some n => withoutControlsAfter n rest
      | none => c :: withoutControlsAfter 0 rest

/-- A text without its control sequences. -/
def withoutControls (t : Text) : Text :=
  withoutControlsAfter 0 t

/-- A text with a backslash and a number in place of each lone surrogate. -/
def encodable (t : Text) : Text :=
  t.flatMap fun
    | .scalar c => [.scalar c]
    | .surrogate s => numericEscape (CodePoint.surrogate s).code

/-- A text with a line feed in place of each carriage return that a line feed follows. -/
def withLineFeeds : Text → Text
  | [] => []
  | c :: rest =>
    if c = .scalar '\r' ∧ rest.head? = some (.scalar '\n') then withLineFeeds rest
    else c :: withLineFeeds rest

/-- A text as it arrives on a stream. -/
def shown (t : Text) : Text :=
  withLineFeeds (encodable (withoutControls t))

end JenkinsAdmission.Stream
