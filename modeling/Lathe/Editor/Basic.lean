import Lathe.Color
import Lathe.LineSet
import Lathe.Program.SourceLine

/-!
# The editor

The editor holds the text of a program, a cursor with a selection, and marks on lines: the line of
the cursor, lines chosen for display, the line being executed, and lines with errors. Lines are
numbered from one; places in the text count characters, line breaks included.

The marks shown are computed by `Editor.refresh` whenever one of their causes is set. Between two
refreshes they stay on their lines, whatever the text becomes.
-/

namespace Lathe

/-- A mark on a line. -/
structure Mark where
  /-- The number of the line. -/
  line : Nat
  /-- The color of the line. -/
  color : Color
deriving DecidableEq, Repr

namespace Mark

/-- The color of the line of the cursor. -/
def current : Color := ⟨0x44475a⟩

/-- The color of lines chosen for display. -/
def chosen : Color := ⟨0x1e3a8a⟩

/-- The color of the line being executed. -/
def executing : Color := ⟨0x2f5d3a⟩

/-- The color of lines with errors. -/
def error : Color := ⟨0x660000⟩

end Mark

/-- A line number as it is drawn beside the text. -/
structure LineLabel where
  /-- The height at which it is drawn. -/
  top : Int
  /-- The number. -/
  number : Nat
  /-- Its color. -/
  color : Color
deriving DecidableEq, Repr

/-- The state of the editor. -/
structure Editor where
  /-- The text. -/
  text : String := ""
  /-- The place where the selection was begun. -/
  anchor : Nat := 0
  /-- The place of the cursor. -/
  cursor : Nat := 0
  /-- Whether the text is for reading only. -/
  readOnly : Bool := false
  /-- The lines chosen for display. -/
  chosen : LineSet := []
  /-- The lines with errors. -/
  errors : LineSet := []
  /-- The number of the line being executed. -/
  executing : Option Int := none
  /-- The marks shown. -/
  marks : List Mark := []
deriving DecidableEq, Repr

namespace Editor

/-- The lines of the text. -/
def lines (e : Editor) : List (List Char) :=
  e.text.toList.splitOn '\n'

/-- The index of the line that holds a place, counted from zero: the number of line breaks before
the place. -/
def indexAt (e : Editor) (place : Nat) : Nat :=
  (e.text.toList.take place).count '\n'

/-- The place of the first character of the line with a given index. -/
def startOf (e : Editor) (index : Nat) : Nat :=
  (e.lines.take index).foldl (fun place line => place + line.length + 1) 0

/-- Whether part of the text is selected. -/
def hasSelection (e : Editor) : Bool :=
  decide (e.anchor ≠ e.cursor)

/-- The mark on the line with a given number, if there is such a line. -/
def markLine? (e : Editor) (color : Color) (number : Int) : Option Mark :=
  if 0 < number ∧ number ≤ e.lines.length then some ⟨number.toNat, color⟩ else none

/-- The mark on the line of the cursor. There is none in a text for reading only, or while something
is selected. -/
def currentMark? (e : Editor) : Option Mark :=
  if e.readOnly || e.hasSelection then none else some ⟨e.indexAt e.cursor + 1, Mark.current⟩

/-- The marks that the state calls for. A line with an error has no mark but that of the error and
that of the cursor. -/
def dueMarks (e : Editor) : List Mark :=
  let sound (numbers : List Int) : List Int := numbers.filter fun n => !e.errors.contains n
  e.currentMark?.toList ++
    (sound e.chosen).filterMap (e.markLine? Mark.chosen) ++
    (sound e.executing.toList).filterMap (e.markLine? Mark.executing) ++
    e.errors.filterMap (e.markLine? Mark.error)

/-- Show the marks that the state calls for. -/
def refresh (e : Editor) : Editor :=
  { e with marks := e.dueMarks }

/-- Replace the text and put the cursor at its start. The marks shown stay on their lines. -/
def setText (text : String) (e : Editor) : Editor :=
  { e with text, anchor := 0, cursor := 0 }

/-- Allow or forbid changes of the text. -/
def setReadOnly (readOnly : Bool) (e : Editor) : Editor :=
  { e with readOnly }

/-- Choose lines for display. -/
def choose (numbers : List Int) (e : Editor) : Editor :=
  { e with chosen := LineSet.ofList numbers }.refresh

/-- Set the lines with errors. -/
def setErrors (numbers : List Int) (e : Editor) : Editor :=
  { e with errors := LineSet.ofList numbers }.refresh

/-- Set the line being executed. -/
def setExecuting (number : Option Int) (e : Editor) : Editor :=
  if number = e.executing then e else { e with executing := number }.refresh

/-- Select the text between two places. -/
def select (anchor cursor : Nat) (e : Editor) : Editor :=
  { e with anchor, cursor }.refresh

/-- Whether a line holds something other than blanks and a comment that begins it. -/
def isCode (line : List Char) : Bool :=
  match Text.trim Text.isBlank line with
  | [] => false
  | c :: _ => !SourceLine.opensComment c

/-- The indices of the first and the last line touched by the selection. A line at whose start the
selection ends is not touched. -/
def selectedRange (e : Editor) : Nat × Nat :=
  let stop := max e.anchor e.cursor
  let last := e.indexAt stop
  (e.indexAt (min e.anchor e.cursor),
    if stop = e.startOf last then last - 1 else last)

/-- The numbers of the selected lines that hold code. -/
def selectedLines (e : Editor) : List Nat :=
  if e.hasSelection then
    let (first, last) := e.selectedRange
    (e.lines.zipIdx 1).filterMap fun (line, number) =>
      if first < number ∧ number ≤ last + 1 ∧ isCode line then some number else none
  else []

/-- The marks as line numbers and colors, ordered by color and then by line. -/
def shownMarks (e : Editor) : List (Nat × Color) :=
  (e.marks.map fun mark => (mark.line, mark.color)).mergeSort fun a b =>
    decide (a.2.code < b.2.code ∨ (a.2.code = b.2.code ∧ a.1 ≤ b.1))

/-- The height of a line. -/
def lineHeight : Nat := 10

/-- The width of a digit. -/
def digitWidth : Nat := 7

/-- The width of the column of line numbers: that of the longest number, and a margin. -/
def numberWidth (e : Editor) : Nat :=
  3 + digitWidth * (Nat.toDigits 10 (max 1 e.lines.length)).length

/-- The color of a line number. -/
def labelColor (e : Editor) (number : Nat) : Color :=
  if e.errors.contains (number : Int) then ⟨0xff6b6b⟩
  else if e.executing = some (number : Int) then ⟨0x51cf66⟩
  else ⟨0x6c757d⟩

/-- The line numbers drawn between two heights when the line with index `first` is at the top.
Nothing is drawn if there is no such line. -/
def labels (e : Editor) (first top bottom : Int) : List LineLabel :=
  if first < 0 then []
  else
    (List.range (e.lines.length - first.toNat)).filterMap fun i =>
      let height : Int := (lineHeight * i : Nat)
      let number := first.toNat + i + 1
      if height ≤ bottom ∧ top ≤ height + lineHeight then
        some ⟨height, number, e.labelColor number⟩
      else none

end Editor

end Lathe
