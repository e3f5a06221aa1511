import Lathe.Fault
import Lathe.Json.Basic
import Lathe.Number.Layout
import Lathe.Text.Quoted

/-!
# Writing JSON

Two forms of one value: `compact`, on a single line, and `indented`, with one item a line. Both are
plain ASCII: other characters are written as escaped code units. A value with an integer of too many
digits has a form, but `toText` does not write it.
-/

namespace Lathe.Json

/-- An escaped code unit. -/
def escapedUnit (n : Nat) : List Char :=
  '\\' :: 'u' :: Text.hexDigits 4 n

/-- How a character is written inside a string. -/
def escaped (c : Char) : List Char :=
  if c = '"' ∨ c = '\\' then ['\\', c]
  else if c = '\n' then ['\\', 'n']
  else if c = '\r' then ['\\', 'r']
  else if c = '\t' then ['\\', 't']
  else if c = '\x0c' then ['\\', 'f']
  else if c = '\x08' then ['\\', 'b']
  else if 0x20 ≤ c.toNat ∧ c.toNat < 0x7f then [c]
  else if c.toNat < 0x10000 then escapedUnit c.toNat
  else
    let n := c.toNat - 0x10000
    escapedUnit (0xd800 + n / 0x400) ++ escapedUnit (0xdc00 + n % 0x400)

/-- The written form of a string. -/
def stringText (s : String) : String :=
  String.ofList ('"' :: s.toList.flatMap escaped ++ ['"'])

/-- How a code point is written inside a string. -/
def escapedPoint (n : Nat) : List Char :=
  if n.isValidChar then escaped (Char.ofNat n) else escapedUnit n

/-- The written form of a string given by its code points. -/
def pointsText (points : List Nat) : String :=
  String.ofList ('"' :: points.flatMap escapedPoint ++ ['"'])

/-- The written form of a number. -/
def numberText (x : Float) : String :=
  match Number.exact x with
  | .nan => "NaN"
  | .infinite negative => if negative then "-Infinity" else "Infinity"
  | .finite .. => Number.shortestText x

/-- How the parts of a value are set out. -/
structure Style where
  /-- What stands between the opening bracket and the first item at a given depth. -/
  lead : Nat → String
  /-- What stands between two items at a given depth. -/
  between : Nat → String
  /-- What stands between the name and the value of a member. -/
  colon : String

/-- Everything on one line, without blanks. -/
def Style.compact : Style := ⟨fun _ => "", fun _ => ",", ":"⟩

/-- The start of a new line, indented by two blanks for each level of nesting. -/
def newline (depth : Nat) : String :=
  "\n" ++ String.ofList (List.replicate (2 * depth) ' ')

/-- One item a line, indented by its depth. -/
def Style.indented : Style := ⟨newline, fun depth => "," ++ newline depth, ": "⟩

/-- The written items between two brackets. -/
def Style.enclose (style : Style) (depth : Nat) (opening closing : String) (items : List String) :
    String :=
  if items.isEmpty then opening ++ closing
  else
    opening ++ style.lead (depth + 1) ++ String.intercalate (style.between (depth + 1)) items ++
      style.lead depth ++ closing

mutual

/-- The written form of a value at a given depth. -/
def write (style : Style) (depth : Nat) : Json → String
  | .null => "null"
  | .bool b => if b then "true" else "false"
  | .int n => toString n
  | .float x => numberText x
  | .str s => stringText s
  | .units points => pointsText points
  | .arr items => style.enclose depth "[" "]" (writeItems style (depth + 1) items)
  | .obj members => style.enclose depth "\x7b" "\x7d" (writeMembers style (depth + 1) members)

/-- The written items of a list. -/
def writeItems (style : Style) (depth : Nat) : List Json → List String
  | [] => []
  | item :: rest => write style depth item :: writeItems style depth rest

/-- The written members of an object. -/
def writeMembers (style : Style) (depth : Nat) : List (String × Json) → List String
  | [] => []
  | (key, value) :: rest =>
    (stringText key ++ style.colon ++ write style depth value) :: writeMembers style depth rest

end

/-- The value on one line. -/
def compact (value : Json) : String :=
  write .compact 0 value

/-- The value with one item a line. -/
def indented (value : Json) : String :=
  write .indented 0 value

mutual

/-- Whether no integer in a value has too many digits to be written. -/
def isWritable : Json → Bool
  | .int n => decide (Number.decimalLength n.natAbs ≤ Number.mostDigits)
  | .arr items => isWritableItems items
  | .obj members => isWritableMembers members
  | _ => true

/-- Whether each of some values can be written. -/
def isWritableItems : List Json → Bool
  | [] => true
  | item :: rest => isWritable item && isWritableItems rest

/-- Whether each of some named values can be written. -/
def isWritableMembers : List (String × Json) → Bool
  | [] => true
  | (_, value) :: rest => isWritable value && isWritableMembers rest

end

/-- The text of a value with one item a line, or the fault that an integer in it has too many
digits. -/
def toText (value : Json) : Except Fault String :=
  if value.isWritable then .ok value.indented else .error (.notInteger .tooLong)

end Lathe.Json
