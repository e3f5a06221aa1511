import Lathe.Json.Basic
import Lathe.Number.Exact

/-!
# Comparing JSON values

Numbers are compared by their exact values, whichever way they are written, and truth values count
as 0 and 1. The value that is not a number is the same as itself. Numbers can be ordered among
themselves, and so can texts; nothing else can.
-/

namespace Lathe.Json

/-- The value of a number as seen by comparisons. -/
inductive Magnitude where
  /-- Below all other numbers. -/
  | least
  /-- A real number. -/
  | real (q : Rat)
  /-- Above all other numbers. -/
  | greatest
  /-- Not comparable with any number. -/
  | none
deriving DecidableEq

/-- The magnitude of a number or truth value. -/
def magnitude? : Json → Option Magnitude
  | .bool b => some (.real (if b then 1 else 0))
  | .int n => some (.real n)
  | .float x =>
    match Number.exact x, Number.toRat? x with
    | .infinite negative, _ => some (if negative then .least else .greatest)
    | _, some q => some (.real q)
    | _, _ => some .none
  | _ => Option.none

/-- Whether one number is below another. -/
def Magnitude.below : Magnitude → Magnitude → Bool
  | .none, _ => false
  | _, .none => false
  | .real p, .real q => decide (p < q)
  | .least, .least => false
  | .least, _ => true
  | .real _, .greatest => true
  | _, _ => false

mutual

/-- Whether two values are the same. -/
def same : Json → Json → Bool
  | .null, .null => true
  | .str s, .str t => decide (s = t)
  | .units s, .units t => decide (s = t)
  | .arr xs, .arr ys => sameItems xs ys
  | .obj xs, .obj ys => decide (xs.length = ys.length) && sameMembers xs ys
  | x, y =>
    match magnitude? x, magnitude? y with
    | some p, some q => decide (p = q)
    | _, _ => false

/-- Whether two lists hold the same values in the same order. -/
def sameItems : List Json → List Json → Bool
  | [], [] => true
  | x :: xs, y :: ys => same x y && sameItems xs ys
  | _, _ => false

/-- Whether every member of the first list has the same value in the second. -/
def sameMembers : List (String × Json) → List (String × Json) → Bool
  | [], _ => true
  | (key, x) :: rest, ys =>
    (match ys.lookup key with
      | some y => same x y
      | Option.none => false) && sameMembers rest ys

end

/-- The values without repetitions; of values that are the same the first one stays. -/
def distinct (values : List Json) : List Json :=
  values.foldl (fun kept value => if kept.any (same value) then kept else kept ++ [value]) []

/-- The values in increasing order, if they have one: at most one value, numbers only, or strings
only. Strings are ordered by their code points. -/
def sorted? (values : List Json) : Option (List Json) :=
  match values with
  | [] => some []
  | [value] => some [value]
  | _ =>
    match values.mapM magnitude? with
    | some magnitudes =>
      some (((values.zip magnitudes).mergeSort fun a b => !b.2.below a.2).map Prod.fst)
    | Option.none =>
      (values.mapM points?).map fun points =>
        ((values.zip points).mergeSort fun a b => decide (¬b.2 < a.2)).map Prod.fst

end Lathe.Json
