/-!
# JSON values

The values of the data format in which machine profiles are stored. Integers and floating-point
numbers are kept apart, because a number is written back the way it was read. So are strings that
are texts and strings that are not: an escape can write half of a surrogate pair, which is no
character. The members of an object are listed in the order in which their names first appeared.
-/

namespace Lathe

/-- A JSON value. -/
inductive Json where
  /-- The value `null`. -/
  | null
  /-- A truth value. -/
  | bool (b : Bool)
  /-- A number written without point and exponent. -/
  | int (n : Int)
  /-- A number written with a point or an exponent, or one of the three that are not finite. -/
  | float (x : Float)
  /-- A text. -/
  | str (s : String)
  /-- A string with half of a surrogate pair in it, given by its code points. -/
  | units (points : List Nat)
  /-- A list of values. -/
  | arr (items : List Json)
  /-- Named values. -/
  | obj (members : List (String × Json))
deriving Inhabited

namespace Json

mutual

/-- How many collections a value has within each other, at most. -/
def depth : Json → Nat
  | .arr items => depthOfItems items + 1
  | .obj members => depthOfMembers members + 1
  | _ => 0

/-- The greatest depth of some values. -/
def depthOfItems : List Json → Nat
  | [] => 0
  | item :: rest => max (depth item) (depthOfItems rest)

/-- The greatest depth of some named values. -/
def depthOfMembers : List (String × Json) → Nat
  | [] => 0
  | (_, value) :: rest => max (depth value) (depthOfMembers rest)

end

/-- The string of some code points. -/
def ofPoints (points : List Nat) : Json :=
  if points.all fun n => decide n.isValidChar then .str (String.ofList (points.map Char.ofNat))
  else .units points

/-- The code points of a string. -/
def points? : Json → Option (List Nat)
  | .str s => some (s.toList.map Char.toNat)
  | .units points => some points
  | _ => none

/-- The member of an object under `key`. -/
def get? (key : String) : Json → Option Json
  | .obj members => members.lookup key
  | _ => none

end Json

end Lathe
