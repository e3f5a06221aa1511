import Lathe.Proofs.Program.Reading
import Mathlib.Data.List.Basic

/-!
# Programs in two parts

A text that is put below another one is read as it is read alone, with the numbers of its lines
counted on. So the statements of a program and the remarks about it can be found line by line, and
the lines that they name are where they stand, whatever stands on the other lines.

* `SourceLine.ofText_join`: the lines of the joined text;
* `Program.readLines_append`, `Program.readLines_moveDown`: lines are read one after the other, and
  in the same way wherever they stand;
* `Program.parse_join`, `Program.warnings_join`: the statements of the joined text and the remarks
  about it;
* `Program.read_part_by_part`: all of this for two texts.
-/

namespace Lathe

/-! ## Moving down -/

/-- The word some lines further down. -/
def Word.moveDown (lines : Nat) (w : Word) : Word :=
  { w with line := w.line + lines }

/-- The lexeme some lines further down. -/
def Lexeme.moveDown (lines : Nat) : Lexeme → Lexeme
  | .word w => .word (w.moveDown lines)
  | .stray c place => .stray c place

/-- The source line some lines further down. -/
def SourceLine.moveDown (lines : Nat) (line : SourceLine) : SourceLine :=
  { line with
    number := line.number + lines
    lexemes := line.lexemes.map (Lexeme.moveDown lines) }

/-- The statement some lines further down. -/
def Statement.moveDown (lines : Nat) (s : Statement) : Statement :=
  { s with line := s.line + lines }

/-- The finding some lines further down. -/
def Finding.moveDown (lines : Nat) (f : Finding) : Finding :=
  { f with line := f.line + lines }

/-- Lexemes are the same on any line, but for the line. -/
theorem Lexeme.scan_add (line lines place : Nat) (cs : List Char) :
    scan (line + lines) place cs = (scan line place cs).map (moveDown lines) := by
  fun_induction scan line place cs with
  | case1 => simp [scan]
  | case2 place c rest hletter numeral ih =>
    rw [scan, if_pos hletter, List.map_cons, ← ih]
    rfl
  | case3 place c rest hletter ih =>
    rw [scan, if_neg hletter, List.map_cons, ← ih]
    rfl

namespace SourceLine

theorem ofChars_add (number lines : Nat) (cs : List Char) :
    ofChars (number + lines) cs = (ofChars number cs).moveDown lines := by
  simp only [ofChars, moveDown, Lexeme.scan_add]

theorem words_moveDown (lines : Nat) (line : SourceLine) :
    (line.moveDown lines).words = line.words.map (Word.moveDown lines) := by
  unfold words moveDown
  rw [List.filterMap_map, List.map_filterMap]
  congr 1
  funext lexeme
  cases lexeme <;> rfl

theorem strays_moveDown (lines : Nat) (line : SourceLine) :
    (line.moveDown lines).strays = line.strays := by
  unfold strays moveDown
  rw [List.filterMap_map]
  congr 1
  funext lexeme
  cases lexeme <;> rfl

/-! ## The lines of a text -/

theorem ofTextFrom_add (first lines : Nat) (cs : List Char) :
    ofTextFrom (first + lines) cs = (ofTextFrom first cs).map (moveDown lines) := by
  unfold ofTextFrom
  -- the numbers are counted from `first`, so a shift of all of them is a shift of `first`
  rw [Nat.add_comm, ← List.map_snd_add_zipIdx_eq_zipIdx, List.map_map, List.map_map]
  congr 1
  funext ⟨line, number⟩
  exact ofChars_add number lines line

/-- The lines of two texts with a line feed between them. -/
theorem ofTextFrom_append (first : Nat) (cs ds : List Char) :
    ofTextFrom first (cs ++ '\n' :: ds) =
      ofTextFrom first cs ++ ofTextFrom (first + (cs.splitOn '\n').length) ds := by
  have hsplit : (cs ++ '\n' :: ds).splitOn '\n' = cs.splitOn '\n' ++ ds.splitOn '\n' :=
    List.splitOnP_append_cons cs ds (beq_self_eq_true '\n')
  unfold ofTextFrom
  rw [hsplit, List.zipIdx_append, List.map_append]

end SourceLine

/-- The number of lines of a text: one more than there are line feeds. -/
def Program.lineCount (text : String) : Nat :=
  text.toList.count '\n' + 1

theorem length_splitOn_newline (cs : List Char) :
    (cs.splitOn '\n').length = cs.count '\n' + 1 := by
  induction cs with
  | nil => rfl
  | cons c rest ih =>
    unfold List.splitOn at ih ⊢
    rw [List.splitOnP_cons_eq_if_modifyHead, List.count_cons]
    split <;> simp [ih]

/-- The lines of a text that has another one below it: first its own, then those of the other one,
counted on. -/
theorem SourceLine.ofText_join (text below : String) :
    ofText (text ++ "\n" ++ below) =
      ofText text ++ (ofText below).map (moveDown (Program.lineCount text)) := by
  have hchars : (text ++ "\n" ++ below).toList = text.toList ++ '\n' :: below.toList := by
    simp
  unfold ofText
  rw [hchars, ofTextFrom_append, length_splitOn_newline, ofTextFrom_add]
  rfl

/-! ## Statements -/

/-- What a word says, wherever it stands. -/
def Word.content (w : Word) : Char × String × Option Float :=
  (w.letter, w.text, w.value)

namespace Program

variable {number number' : Nat} {raw raw' : String} {line line' : SourceLine}
  {words words' : List Word} {f : Statement → Statement}

/-- Words that say the same make the same statements, but for the line on which they stand. -/
theorem readWords_congr
    (hf : ∀ draft : Draft, draft.complete number' raw' = f (draft.complete number raw))
    (hwords : words'.map Word.content = words.map Word.content) (draft : Draft) :
    readWords number' raw' draft words' =
      (readWords number raw draft words).map (List.map f) := by
  induction words generalizing words' draft with
  | nil =>
    obtain rfl := List.map_eq_nil_iff.mp hwords
    simp only [readWords, Except.map, List.map_cons, List.map_nil, hf]
  | cons w rest ih =>
    obtain ⟨w', rest', rfl, hw, hrest⟩ := List.map_eq_cons_iff.mp hwords
    -- of a word, its letter, its number and what is written are read, and not its place
    obtain ⟨hletter, htext, hvalue⟩ : w'.letter = w.letter ∧ w'.text = w.text ∧
        w'.value = w.value := by
      simpa [Word.content] using hw
    have hcode : w'.code = w.code := by rw [Word.code, Word.code, hvalue]
    have hcodeText : w'.codeText = w.codeText := by rw [Word.codeText, Word.codeText, htext]
    have hparam : draft.addParam w' = draft.addParam w := by
      rw [Draft.addParam, Draft.addParam, hletter, hvalue]
    simp only [readWords, hletter, hcode, hcodeText, hparam]
    cases Kind.ofLetter? w.letter with
    | none => exact ih hrest _
    | some kind =>
      cases w.code with
      | error fault => rfl
      | ok code =>
        dsimp only
        split
        · -- the code ends the statement before it, which is completed here
          rw [ih hrest, hf]
          cases readWords number raw ⟨some (kind, code, w.codeText), []⟩ rest <;> rfl
        · exact ih hrest _

theorem readLine_congr
    (hf : ∀ draft : Draft,
      draft.complete line'.number line'.raw = f (draft.complete line.number line.raw))
    (hwords : line'.words.map Word.content = line.words.map Word.content) :
    readLine line' = (readLine line).map (List.map f) := by
  have hempty : line'.words.isEmpty = line.words.isEmpty := by
    rw [← List.isEmpty_map (f := Word.content), hwords, List.isEmpty_map]
  unfold readLine
  rw [hempty]
  split
  · rfl
  · exact readWords_congr hf hwords .empty

/-- A change of lines that changes the statements of each line changes those of all. -/
theorem readLines_map {g : SourceLine → SourceLine}
    (hg : ∀ line, readLine (g line) = (readLine line).map (List.map f)) (lines : List SourceLine) :
    readLines (lines.map g) = (readLines lines).map (List.map f) := by
  induction lines with
  | nil => rfl
  | cons line rest ih =>
    rw [List.map_cons, readLines, readLines, hg, ih]
    cases readLine line with
    | error fault => rfl
    | ok statements => cases readLines rest <;> simp [Except.map]

/-- Lines make the same statements wherever they stand. -/
theorem readLines_moveDown (count : Nat) (lines : List SourceLine) :
    readLines (lines.map (SourceLine.moveDown count)) =
      (readLines lines).map (List.map (Statement.moveDown count)) := by
  refine readLines_map (fun line => readLine_congr (fun _ => rfl) ?_) lines
  rw [SourceLine.words_moveDown, List.map_map]
  rfl

/-- Lines are read one after the other. -/
theorem readLines_append (first second : List SourceLine) :
    readLines (first ++ second) =
      match readLines first with
      | .error fault => .error fault
      | .ok statements => (readLines second).map (statements ++ ·) := by
  induction first with
  | nil =>
    rw [List.nil_append]
    cases readLines second <;> rfl
  | cons line rest ih =>
    rw [List.cons_append, readLines, readLines, ih]
    -- the first fault is the one that counts, so the cases follow the order of the lines
    cases readLine line with
    | error fault => rfl
    | ok statements =>
      cases readLines rest with
      | error fault => rfl
      | ok others => cases readLines second <;> simp [Except.map]

/-- The statements of a text that has another one below it. -/
theorem parse_join (text below : String) :
    parse (text ++ "\n" ++ below) =
      match parse text with
      | .error fault => .error fault
      | .ok program =>
        (parse below).map fun rest =>
          program ++ rest.map (Statement.moveDown (lineCount text)) := by
  unfold parse
  rw [SourceLine.ofText_join, readLines_append, readLines_moveDown]
  cases readLines (SourceLine.ofText text) with
  | error fault => rfl
  | ok program => cases readLines (SourceLine.ofText below) <;> rfl

/-- The remarks about a text that has another one below it. -/
theorem warnings_join (text below : String) :
    warnings (text ++ "\n" ++ below) =
      warnings text ++ (warnings below).map (Finding.moveDown (lineCount text)) := by
  have hline (line : SourceLine) :
      lineWarnings (line.moveDown (lineCount text)) =
        (lineWarnings line).map (Finding.moveDown (lineCount text)) := by
    unfold lineWarnings
    rw [SourceLine.strays_moveDown, List.map_map]
    rfl
  unfold warnings
  rw [SourceLine.ofText_join, List.flatMap_append, List.flatMap_map, List.map_flatMap]
  simp only [hline]

/-- A text with another one below it can be read exactly if both can. Its statements are then those
of the first one and those of the second one, on lines that are as much higher as the first one has
lines, and the same but for that; and so are the remarks about it. -/
theorem read_part_by_part (text below : String) :
    ((∃ fault, parse (text ++ "\n" ++ below) = .error fault) ↔
      (∃ fault, parse text = .error fault) ∨ ∃ fault, parse below = .error fault) ∧
    (∀ program rest, parse text = .ok program → parse below = .ok rest →
      parse (text ++ "\n" ++ below) =
        .ok (program ++ rest.map (Statement.moveDown (lineCount text)))) ∧
    warnings (text ++ "\n" ++ below) =
      warnings text ++ (warnings below).map (Finding.moveDown (lineCount text)) := by
  refine ⟨?_, fun program rest htext hbelow => ?_, warnings_join text below⟩
  · rw [parse_join]
    cases parse text with
    | error fault => simp
    | ok program => cases parse below <;> simp [Except.map]
  · rw [parse_join, htext, hbelow]
    rfl

/-- A line with a stray character, a comment and an empty line. -/
def upperPart : String := "g1 x10 % M8\r\n(facing)\n"

/-- The statements of the first line; no other line has any. -/
def upperProgram : List Statement := [
  { kind := .preparatory, code := some (.whole 1), params := [('X', 10.0)], line := 1,
    raw := "g1 x10 % M8", codeText := "1" },
  { kind := .miscellaneous, code := some (.whole 8), params := [], line := 1,
    raw := "g1 x10 % M8", codeText := "8" }]

/-- A tool change, and a stray character that is all there is on its line. -/
def lowerPart : String := "T0303\n#"

/-- The tool change. -/
def lowerProgram : List Statement := [
  { kind := .tool, code := some (.whole 303), params := [], line := 1, raw := "T0303",
    codeText := "0303" }]

/-- Below the three lines of the other part, the tool change stands on the fourth. -/
theorem read_lowerPart_below_upperPart :
    parse upperPart = .ok upperProgram ∧ parse lowerPart = .ok lowerProgram ∧
    parse (upperPart ++ "\n" ++ lowerPart) =
      .ok (upperProgram ++ lowerProgram.map (Statement.moveDown 3)) ∧
    warnings (upperPart ++ "\n" ++ lowerPart) =
      [.warning 1 (.strayCharacter '%'), .warning 5 (.strayCharacter '#')] := by
  have hupper : parse upperPart = .ok upperProgram := by decide +kernel
  have hlower : parse lowerPart = .ok lowerProgram := by decide +kernel
  obtain ⟨-, hparse, hwarnings⟩ := read_part_by_part upperPart lowerPart
  refine ⟨hupper, hlower, hparse _ _ hupper hlower, hwarnings.trans ?_⟩
  decide +kernel

end Program

end Lathe
