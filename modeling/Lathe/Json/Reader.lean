import Lathe.Association
import Lathe.Json.Basic
import Lathe.Number.Reading

/-!
# Reading JSON

A strict reader with three additions: `NaN`, `Infinity` and `-Infinity` are numbers, a repeated name
in an object takes the last of its values, and a number of any size is read. Control characters in
strings, a leading byte order mark, and integers of too many digits are refused. A text with
too many collections within each other is given up at the bracket that goes too deep, whatever
follows it.

Every step of the recursion consumes a character, so the length of the text bounds the recursion.
-/

namespace Lathe.Json

/-- Why a text could not be read. -/
inductive ReadError where
  /-- It denotes no value. -/
  | malformed
  /-- It has too many collections within each other. -/
  | tooDeep
deriving DecidableEq, Repr

/-- How many collections there may be within each other. -/
def deepest : Nat := 988

/-- Whether `c` may stand between the parts of a value. -/
def isSpace (c : Char) : Bool :=
  c = ' ' || c = '\t' || c = '\n' || c = '\r'

/-- The text without the space at its start. -/
def skipSpace (cs : List Char) : List Char :=
  cs.dropWhile isSpace

/-- The value of a hexadecimal digit. -/
def hexValue? (c : Char) : Option Nat :=
  if '0' ≤ c ∧ c ≤ '9' then some (c.toNat - 48)
  else if 'a' ≤ c ∧ c ≤ 'f' then some (c.toNat - 87)
  else if 'A' ≤ c ∧ c ≤ 'F' then some (c.toNat - 55)
  else none

/-- The code unit written by four hexadecimal digits, and the text after them. -/
def readUnit : List Char → Option (Nat × List Char)
  | a :: b :: c :: d :: rest => do
    let a ← hexValue? a
    let b ← hexValue? b
    let c ← hexValue? c
    let d ← hexValue? d
    some (((a * 16 + b) * 16 + c) * 16 + d, rest)
  | _ => none

/-- The character that a one-letter escape stands for. -/
def escape? (c : Char) : Option Char :=
  [('"', '"'), ('\\', '\\'), ('/', '/'), ('b', '\x08'), ('f', '\x0c'), ('n', '\n'), ('r', '\r'),
    ('t', '\t')].lookup c

/-- The code point of an escaped code unit, and the text after it. Two units of a surrogate pair
make one code point; a unit without its partner stands for itself. -/
def readEscapedUnit (cs : List Char) : Option (Nat × List Char) := do
  let (high, rest) ← readUnit cs
  match rest with
  | '\\' :: 'u' :: more =>
    match readUnit more with
    | some (low, after) =>
      if 0xd800 ≤ high ∧ high < 0xdc00 ∧ 0xdc00 ≤ low ∧ low < 0xe000 then
        some (0x10000 + (high - 0xd800) * 0x400 + (low - 0xdc00), after)
      else some (high, rest)
    | none => some (high, rest)
  | _ => some (high, rest)

/-- The code points of the rest of a string after its opening quote, and the text after it; `done`
holds the code points read, last first. -/
def readString (done : List Nat) : Nat → List Char → Option (List Nat × List Char)
  | 0, _ => none
  | _ + 1, [] => none
  | _ + 1, '"' :: rest => some (done.reverse, rest)
  | fuel + 1, '\\' :: 'u' :: rest => do
    let (point, rest) ← readEscapedUnit rest
    readString (point :: done) fuel rest
  | fuel + 1, '\\' :: e :: rest => do
    let c ← escape? e
    readString (c.toNat :: done) fuel rest
  | fuel + 1, c :: rest =>
    if c.toNat < 0x20 ∨ c = '\\' then none else readString (c.toNat :: done) fuel rest

/-- The name of some code points; half of a surrogate pair becomes the replacement character. -/
def nameOf (points : List Nat) : String :=
  String.ofList (points.map fun n => if n.isValidChar then Char.ofNat n else '\ufffd')

/-- The longest run of ASCII digits at the start of a text, and the text after it. -/
def spanDigits (cs : List Char) : List Char × List Char :=
  cs.span Char.isDigit

/-- The exponent at the start of a text, if one stands there in full, and the text after it. -/
def readExponent (cs : List Char) : Option (Int × List Char) :=
  match cs with
  | mark :: rest =>
    if mark = 'e' ∨ mark = 'E' then
      let (negative, rest) := Number.splitSign rest
      let (digits, rest) := spanDigits rest
      if digits.isEmpty then none
      else some (Number.signed negative (Text.digitsValue digits), rest)
    else none
  | [] => none

/-- The digits in front of a point, without a superfluous zero at their start, and the text after
them. -/
def readWhole : List Char → List Char × List Char
  | '0' :: rest => (['0'], rest)
  | cs => spanDigits cs

/-- The digits after a point, if there are any, and the text after them. -/
def readFraction : List Char → List Char × List Char
  | '.' :: more =>
    let (digits, after) := spanDigits more
    if digits.isEmpty then ([], '.' :: more) else (digits, after)
  | cs => ([], cs)

/-- A number without its sign: digits without a superfluous zero in front, then a fraction and an
exponent, both optional. -/
def readMagnitude (negative : Bool) (cs : List Char) : Option (Json × List Char) :=
  let (whole, rest) := readWhole cs
  if whole.isEmpty then none
  else
    let (fraction, rest) := readFraction rest
    let m := Text.digitsValue (whole ++ fraction)
    match fraction.isEmpty, readExponent rest with
    | true, none =>
      if Number.mostDigits < whole.length then none
      else some (.int (Number.signed negative m), rest)
    | _, none => some (.float (Number.ofDecimal negative m (-fraction.length)), rest)
    | _, some (e, rest) => some (.float (Number.ofDecimal negative m (e - fraction.length)), rest)

/-- A number. -/
def readNumber : List Char → Option (Json × List Char)
  | '-' :: rest => readMagnitude true rest
  | cs => readMagnitude false cs

/-- The fixed words of the format and their values. -/
def literals : List (List Char × Json) := [
  ("null".toList, .null), ("true".toList, .bool true), ("false".toList, .bool false),
  ("NaN".toList, .float (0.0 / 0.0)), ("Infinity".toList, .float (1.0 / 0.0)),
  ("-Infinity".toList, .float (-1.0 / 0.0))]

/-- A fixed word at the start of a text. -/
def readLiteral (cs : List Char) : Option (Json × List Char) :=
  literals.findSome? fun (word, value) =>
    if word.isPrefixOf cs then some (value, cs.drop word.length) else none

/-- A part of a value that is there, or the error that it is not. -/
def required {α : Type} : Option α → Except ReadError α
  | some a => .ok a
  | none => .error .malformed

mutual

/-- A value at the start of a text, and the text after it; it may have collections within each other
up to the depth `room`. -/
def readValue (room : Nat) : Nat → List Char → Except ReadError (Json × List Char)
  | 0, _ => .error .malformed
  | fuel + 1, '"' :: rest =>
    required ((readString [] fuel rest).map fun (points, rest) => (ofPoints points, rest))
  | fuel + 1, '[' :: rest =>
    match room, skipSpace rest with
    | 0, _ => .error .tooDeep
    | _ + 1, ']' :: after => .ok (.arr [], after)
    | room + 1, items => readItems room [] fuel items
  | fuel + 1, '\x7b' :: rest =>
    match room, skipSpace rest with
    | 0, _ => .error .tooDeep
    | _ + 1, '\x7d' :: after => .ok (.obj [], after)
    | room + 1, members => readMembers room [] fuel members
  | _ + 1, cs => required ((readLiteral cs).orElse fun _ => readNumber cs)

/-- The items of a list that is not empty; `done` holds the items read, last first. -/
def readItems (room : Nat) (done : List Json) :
    Nat → List Char → Except ReadError (Json × List Char)
  | 0, _ => .error .malformed
  | fuel + 1, cs => do
    let (item, rest) ← readValue room fuel cs
    match skipSpace rest with
    | ',' :: more => readItems room (item :: done) fuel (skipSpace more)
    | ']' :: after => .ok (.arr (item :: done).reverse, after)
    | _ => .error .malformed

/-- The members of an object that is not empty; `done` holds the members read. -/
def readMembers (room : Nat) (done : List (String × Json)) :
    Nat → List Char → Except ReadError (Json × List Char)
  | 0, _ => .error .malformed
  | fuel + 1, '"' :: cs => do
    let (points, rest) ← required (readString [] fuel cs)
    let key := nameOf points
    match skipSpace rest with
    | ':' :: more =>
      let (value, rest) ← readValue room fuel (skipSpace more)
      match skipSpace rest with
      | ',' :: more => readMembers room (Association.put key value done) fuel (skipSpace more)
      | '\x7d' :: after => .ok (.obj (Association.put key value done), after)
      | _ => .error .malformed
    | _ => .error .malformed
  | _ + 1, _ => .error .malformed

end

/-- The value that a whole text denotes. -/
def read (text : String) : Except ReadError Json := do
  let cs := text.toList
  let (value, rest) ← readValue deepest (cs.length + 1) (skipSpace cs)
  if (skipSpace rest).isEmpty then .ok value else .error .malformed

end Lathe.Json
