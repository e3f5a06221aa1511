import Lathe.Json.Basic
import Lathe.Number.Layout
import Lathe.Text.Quoted

/-!
# Values in messages

How a value is shown when a message speaks of it. Texts are quoted, also inside of collections, and
the three words of the format have names that begin with a capital letter.
-/

namespace Lathe.Json

/-- How a code point stands between quotes. -/
def quotedPoint (quote : Char) (n : Nat) : List Char :=
  if n.isValidChar then Text.quotedChar quote (Char.ofNat n) else '\\' :: 'u' :: Text.hexDigits 4 n

/-- The quoted form of a string given by its code points. -/
def quotedPoints (points : List Nat) : String :=
  let quote := Text.quoteFor (points.map Char.ofNat)
  String.ofList (quote :: points.flatMap (quotedPoint quote) ++ [quote])

mutual

/-- A value as it is shown in messages. -/
def quoted : Json → String
  | .null => "None"
  | .bool b => if b then "True" else "False"
  | .int n => toString n
  | .float x => Number.shortestText x
  | .str s => Text.quoted s
  | .units points => quotedPoints points
  | .arr items => "[" ++ String.intercalate ", " (quotedItems items) ++ "]"
  | .obj members => "\x7b" ++ String.intercalate ", " (quotedMembers members) ++ "\x7d"

/-- The items of a list as they are shown in messages. -/
def quotedItems : List Json → List String
  | [] => []
  | item :: rest => quoted item :: quotedItems rest

/-- The members of an object as they are shown in messages. -/
def quotedMembers : List (String × Json) → List String
  | [] => []
  | (key, value) :: rest => (Text.quoted key ++ ": " ++ quoted value) :: quotedMembers rest

end

/-- A value as it is shown where nothing is quoted around it: a text stands for itself. -/
def shown : Json → String
  | .str s => s
  | value => value.quoted

end Lathe.Json
