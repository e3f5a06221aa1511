import Lathe.Fault
import Lathe.Json.Quoted
import Lathe.Number.Reading

/-!
# What values stand for

A value of the data format stands for a number, for a name or for a truth value, depending on where
it is given. What it cannot stand for is a fault.
-/

namespace Lathe.Json

/-- The number that a value stands for; a text stands for the number that it denotes. -/
def number : Json → Except Fault Float
  | .int n => realOf n
  | .float x => .ok x
  | .bool b => .ok (if b then 1.0 else 0.0)
  | .str s =>
    match Number.ofText? s with
    | some x => .ok x
    | none => .error (.notNumber (Text.quoted s))
  | .units points => .error (.notNumber (quotedPoints points))
  | _ => .error .notNumeric

/-- The member of a family that a value names. -/
def named {α : Type} (family : Family) (ofName : String → Except Fault α) : Json → Except Fault α
  | .str name => ofName name
  | value => .error (.notMember family value.quoted)

/-- Whether a value counts as true: it is neither nothing, nor zero, nor empty. -/
def isTrue : Json → Bool
  | .null => false
  | .bool b => b
  | .int n => decide (n ≠ 0)
  | .float x => x != 0.0
  | .str s => !s.isEmpty
  | .units points => !points.isEmpty
  | .arr items => !items.isEmpty
  | .obj members => !members.isEmpty

/-- Whether a value has no parts, so that it can be a member of a set. -/
def isSimple : Json → Bool
  | .arr _ => false
  | .obj _ => false
  | _ => true

end Lathe.Json
