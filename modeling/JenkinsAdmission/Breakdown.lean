/-!
# Breakdowns

Faults that nobody reports. A manifest or a secret can be at fault in ways for which there is a
message, and those faults are values of the domain. Some input, however, meets no rule at all, such
as a number that cannot be built from its digits. Then the whole run breaks down, and the only thing
known about it is its cause.
-/

namespace JenkinsAdmission

/-- The cause of a breakdown. -/
inductive Breakdown
  /-- bytes that are not UTF-8 -/
  | undecodableBytes
  /-- a text with a lone surrogate where bytes are needed -/
  | unencodableText
  /-- an integer with too many digits to be written -/
  | numeralTooLong
  /-- a text that is tagged as a number and is none -/
  | badNumeral
  /-- a text that is tagged as a number and has no character of one -/
  | emptyNumeral
  /-- a text that is tagged as a truth value and names none -/
  | unknownTruthValue
  /-- a day, a time or an offset outside the calendar -/
  | outsideCalendar
  /-- a text that is tagged as a time and has not its form -/
  | noTimestamp
  /-- a mapping that is tagged as a time -/
  | timestampMapping
  /-- an escape that names no code point -/
  | noCodePoint
  /-- encoded data of a secret that is neither text nor bytes -/
  | untypedData
  /-- plain data of a secret that is no text -/
  | untypedText
  /-- a path with a lone surrogate, which has no bytes -/
  | unencodablePath
  /-- a path with a null character, which would end it -/
  | nullInPath
  /-- a check where nobody has declared a resource -/
  | noResource
  /-- a number that is too large for what it stands for -/
  | numberTooLarge
  /-- a structure that is too deep, or has no bottom -/
  | tooDeep
  /-- bytes that cannot be a key of their algorithm -/
  | impossibleKey
  /-- markup that the console cannot draw -/
  | undrawable
  deriving DecidableEq

end JenkinsAdmission
