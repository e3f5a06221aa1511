import Lathe.Number.Division
import Lathe.Text.Quoted

/-!
# Faults

A fault is an input that an operation cannot take: it ends the operation without an answer. Findings
about a program, such as an unsupported code, are no faults (see `Lathe.Finding`). Each fault is
recorded by its cause; `Fault.message` is the one place where a cause is put into words.
-/

namespace Lathe

/-- The closed lists of names that an input may have to belong to. -/
inductive Family where
  /-- The kinds of tools. -/
  | toolKind
  /-- The kinds of motion. -/
  | motion
  /-- The stock materials. -/
  | material
  /-- The categories of findings. -/
  | category
  /-- The severities of findings. -/
  | severity
deriving DecidableEq, Repr

/-- The name of a family in messages. -/
def Family.label : Family → String
  | .toolKind => "ToolKind"
  | .motion => "MotionKind"
  | .material => "Material"
  | .category => "ErrorType"
  | .severity => "ErrorSeverity"

/-- Why an integer could not be read from a text, or not be written as one. -/
inductive NotInteger where
  /-- The text denotes no integer. -/
  | malformed (text : String)
  /-- The integer has too many digits. -/
  | tooLong
deriving DecidableEq, Repr

/-- Why an operation ended without an answer. -/
inductive Fault where
  /-- A number that is no real number was to be made an integer. -/
  | notReal (reason : Number.NotReal)
  /-- An integer is beyond the largest number. -/
  | tooLarge
  /-- The quotient of two integers is beyond the largest number. -/
  | quotientTooLarge
  /-- The result of a computation is beyond the largest number. -/
  | outOfRange
  /-- A name, given in its quoted form, does not belong to a family. -/
  | notMember (family : Family) (quotedName : String)
  /-- A text was to be read as an integer, or an integer to be written as a text. -/
  | notInteger (reason : NotInteger)
  /-- A text, given in its quoted form, was to be read as a number. -/
  | notNumber (quotedText : String)
  /-- A value that is neither a number nor a text was to be a number. -/
  | notNumeric
  /-- A value that is no text was to be a name. -/
  | notText
  /-- A value with parts was looked up in a set. -/
  | notSimple
  /-- A log level has no such name. -/
  | unknownLevel (name : String)
  /-- A log level is neither an integer nor a name. -/
  | notLevel
  /-- A tool description lacks its number or has an entry that tools do not have. -/
  | malformedTool
  /-- A profile lacks a field, has one that profiles do not have, or has one of the wrong shape. -/
  | malformedProfile
  /-- Values without a common order were to be sorted. -/
  | incomparable
  /-- A value has parts within parts beyond the depth that can be handled. -/
  | tooDeep
  /-- There is no entry at the place asked for. -/
  | noSuchEntry
  /-- There is no entry of the name asked for. -/
  | noSuchName
  /-- The name of a file holds the character that ends names. -/
  | nullInName
deriving DecidableEq, Repr

/-- The words for a fault, for those that have any. -/
def Fault.message : Fault → Option String
  | .notReal .infinite => some "cannot convert float infinity to integer"
  | .notReal .nan => some "cannot convert float NaN to integer"
  | .tooLarge => some "int too large to convert to float"
  | .quotientTooLarge => some "integer division result too large for a float"
  | .outOfRange => some "(34, 'Numerical result out of range')"
  | .notMember family quotedName => some s!"{quotedName} is not a valid {family.label}"
  | .notInteger (.malformed text) =>
    some s!"invalid literal for int() with base 10: {Text.quoted text}"
  | .notInteger .tooLong =>
    some (s!"Exceeds the limit ({Number.mostDigits} digits) for integer string conversion; " ++
      "use sys.set_int_max_str_digits() to increase the limit")
  | .notNumber quotedText => some s!"could not convert string to float: {quotedText}"
  | .unknownLevel name => some s!"Unknown level: {Text.quoted name}"
  | .nullInName => some "embedded null byte"
  | .notNumeric | .notText | .notSimple | .notLevel | .malformedTool | .malformedProfile => none
  | .incomparable | .tooDeep | .noSuchEntry | .noSuchName => none

/-- The integer part of a number, or the fault that it has none. -/
def truncate (x : Float) : Except Fault Int :=
  match Number.truncate x with
  | .ok n => .ok n
  | .error reason => .error (.notReal reason)

/-- The number nearest to an integer, or the fault that it is beyond the largest number. -/
def realOf (n : Int) : Except Fault Float :=
  match Number.ofQuotient? n.natAbs 1 with
  | some x => .ok (if n < 0 then -x else x)
  | none => .error .tooLarge

/-- The number nearest to `a / b`, for a positive `b`, or the fault that it is beyond the largest
number. -/
def divide (a b : Int) : Except Fault Float :=
  match Number.ofQuotient? a.natAbs b.natAbs with
  | some x => .ok (if a < 0 then -x else x)
  | none => .error .quotientTooLarge

end Lathe
