import Lathe.Proofs.Program.Layout

/-!
# Lines that are spelled out

The words of a line, written one behind the other, are a line again, and it is read as these words.
What was stray between two words is gone, so the words stand next to each other as they did not
before; but each begins with a letter, and a letter ends the numeral before it.

* `Numeral.scan_append`: a numeral before a letter is read as it is;
* `Lexeme.exists_scan_eq`: words that are spelled out are scanned as the same words;
* `SourceLine.codeOf_eq_self`: nothing of what is spelled out is lost before it is scanned;
* `SourceLine.spelled_line_reads_back`: a line that is spelled out is read as that line.
-/

namespace Lathe

/-! ## Words -/

/-- A numeral is read as it is where nothing or a letter is behind it. -/
theorem Numeral.scan_append {numeral rest : List Char} (h : numeral = [] ∨ IsNumeral numeral)
    (hrest : ∀ c ∈ rest.head?, Lexeme.isLetter c = true) : scan (numeral ++ rest) = numeral := by
  refine scan_eq_iff.mpr ⟨List.prefix_append numeral rest, h, fun other hother hnumeral => ?_⟩
  rcases List.prefix_or_prefix_of_prefix hother (List.prefix_append numeral rest) with
    hshort | ⟨more, rfl⟩
  · exact hshort.length_le
  · -- a longer numeral would hold the letter
    cases more with
    | nil => simp
    | cons c others =>
      rw [List.prefix_append_right_inj] at hother
      obtain ⟨behind, rfl⟩ := hother
      have hletter : Lexeme.isLetter c = true := hrest c rfl
      rw [Lexeme.isLetter_of_isNumeral hnumeral (by simp)] at hletter
      cases hletter

namespace Word

/-- The word has a letter, a numeral or none, and the number that the numeral denotes. -/
structure Proper (w : Word) : Prop where
  /-- The letter is one that begins words. -/
  isLetter : Lexeme.isLetter w.letter = true
  /-- What is behind the letter is a numeral, if anything. -/
  isNumeral : w.text.toList = [] ∨ Numeral.IsNumeral w.text.toList
  /-- The number is that of the numeral. -/
  value : w.value =
    if w.text.toList.isEmpty then none else some (Numeral.value w.text.toList)

theorem proper_wordAt {c : Char} (hletter : Lexeme.isLetter c = true) (line place : Nat)
    (rest : List Char) : (Lexeme.wordAt line place c (Numeral.scan rest)).Proper := by
  have htext : (Lexeme.wordAt line place c (Numeral.scan rest)).text.toList = Numeral.scan rest :=
    String.toList_ofList
  refine ⟨hletter, ?_, ?_⟩
  · rw [htext]
    exact (Numeral.longest_scan rest).isNumeral
  · rw [htext]
    rfl

/-- A proper word says what is read of its letter and its numeral, wherever they stand. -/
theorem Proper.content_wordAt {w : Word} (h : w.Proper) (line place : Nat) :
    (Lexeme.wordAt line place w.letter w.text.toList).content = w.content := by
  simp only [content, Lexeme.wordAt, String.ofList_toList, h.value]

theorem toList_spelling (w : Word) : w.spelling.toList = w.letter :: w.text.toList := by
  simp [spelling]

end Word

/-- Words that are spelled out are scanned as words that say the same, and nothing is stray. -/
theorem Lexeme.exists_scan_eq {words : List Word} (hwords : ∀ w ∈ words, w.Proper)
    (line place : Nat) :
    ∃ again : List Word,
      scan line place (words.flatMap fun w => w.spelling.toList) = again.map .word ∧
      again.map Word.content = words.map Word.content := by
  induction words generalizing place with
  | nil => exact ⟨[], by simp [scan], rfl⟩
  | cons w rest ih =>
    obtain ⟨hw, hrest⟩ := List.forall_mem_cons.mp hwords
    obtain ⟨again, hscan, hcontent⟩ := ih hrest (place + 1 + w.text.toList.length)
    -- what is spelled out behind the word begins with a letter, if there is anything
    have hbehind : ∀ c ∈ (rest.flatMap fun w => w.spelling.toList).head?, isLetter c = true := by
      intro c hc
      cases rest with
      | nil => cases hc
      | cons v others =>
        rw [List.flatMap_cons, Word.toList_spelling, List.cons_append] at hc
        cases hc
        exact (hrest v List.mem_cons_self).isLetter
    refine ⟨wordAt line place w.letter w.text.toList :: again, ?_, ?_⟩
    · rw [List.flatMap_cons, Word.toList_spelling, List.cons_append, scan, if_pos hw.isLetter,
        Numeral.scan_append hw.isNumeral hbehind]
      dsimp only
      rw [List.drop_left, hscan, List.map_cons]
    · rw [List.map_cons, List.map_cons, hw.content_wordAt, hcontent]

/-! ## Lines -/

namespace SourceLine

variable {cs : List Char} {c : Char} {text : String} {line : SourceLine}

/-- The words of a line, written one behind the other. -/
def spelling (line : SourceLine) : String :=
  String.join (line.words.map Word.spelling)

theorem toList_spelling (line : SourceLine) :
    line.spelling.toList = line.words.flatMap fun w => w.spelling.toList := by
  rw [spelling, String.toList_join, List.flatMap_map]

/-- What is spelled out depends on what the words say alone. -/
theorem spelling_congr {other : SourceLine}
    (h : other.words.map Word.content = line.words.map Word.content) :
    other.spelling = line.spelling := by
  -- a word is spelled from its letter and its text
  have hspelling (w : Word) : w.spelling = w.content.1.toString ++ w.content.2.1 := rfl
  unfold spelling
  rw [funext hspelling]
  simpa [Function.comp_def] using
    congrArg (fun contents => String.join (contents.map fun p => p.1.toString ++ p.2.1)) h

/-- The character stays in the code as it is: it is no blank, opens no comment and has no other
upper case. -/
structure Plain (c : Char) : Prop where
  isBlank : Text.isBlank c = false
  opens : opensComment c = false
  upper : Text.upper c = [c]

theorem plain_of_isLetter (h : Lexeme.isLetter c = true) : Plain c := by
  refine ⟨Text.isBlank_of_isLetter h, ?_, Text.upper_of_isLetter h⟩
  exact opensComment_of_class h (by decide) (by decide)

theorem plain_of_isNumeral (h : Numeral.IsNumeral cs) (hc : c ∈ cs) : Plain c := by
  rcases h.of_mem hc with rfl | rfl | rfl | hdigit
  · exact ⟨by decide, by decide, by decide⟩
  · exact ⟨by decide, by decide, by decide⟩
  · exact ⟨by decide, by decide, by decide⟩
  · refine ⟨Text.isBlank_of_isDigit hdigit, ?_, Text.upper_of_isDigit hdigit⟩
    exact opensComment_of_class hdigit (by decide) (by decide)

/-- A proper word is spelled with plain characters. -/
theorem plain_of_mem_spelling {w : Word} (h : w.Proper) (hc : c ∈ w.spelling.toList) : Plain c := by
  rw [Word.toList_spelling] at hc
  rcases List.mem_cons.mp hc with rfl | hc
  · exact plain_of_isLetter h.isLetter
  · exact plain_of_isNumeral (h.isNumeral.resolve_left (List.ne_nil_of_mem hc)) hc

theorem codeOf_eq_self (h : ∀ c ∈ cs, Plain c) : codeOf cs = cs := by
  induction cs with
  | nil => rfl
  | cons c rest ih =>
    obtain ⟨hc, hrest⟩ := List.forall_mem_cons.mp h
    rw [codeOf_cons hc.opens, hc.upper, List.filter_cons_of_pos (by simp [hc.isBlank]), ih hrest]
    rfl

/-- Plain characters are all on one line. -/
theorem ofText_eq_singleton (h : ∀ c ∈ text.toList, Plain c) :
    ofText text = [ofChars 1 text.toList] := by
  have hsplit : text.toList.splitOn '\n' = [text.toList] := by
    refine List.splitOnP_eq_singleton fun c hc => beq_eq_false_iff_ne.mpr ?_
    rintro rfl
    exact absurd (h _ hc).isBlank (by decide)
  rw [ofText, ofTextFrom, hsplit]
  rfl

theorem proper_of_mem_words (hline : line ∈ ofText text) {w : Word} (hw : w ∈ line.words) :
    w.Proper := by
  obtain ⟨⟨cs, number⟩, -, rfl⟩ := List.mem_map.mp hline
  obtain ⟨start, c, rest, hletter, rfl⟩ :=
    Lexeme.exists_eq_wordAt (Lexeme.mem_filterMap_word?.mp hw)
  exact Word.proper_wordAt hletter number start rest

/-- A line that is spelled out: one line, of words that say the same, and nothing is stray. -/
theorem exists_ofText_spelling (hline : ∀ w ∈ line.words, w.Proper) :
    ∃ again, ofText line.spelling = [again] ∧ again.strays = [] ∧
      again.words.map Word.content = line.words.map Word.content := by
  have hplain : ∀ c ∈ line.spelling.toList, Plain c := by
    rw [toList_spelling]
    intro c hc
    obtain ⟨w, hw, hc⟩ := List.mem_flatMap.mp hc
    exact plain_of_mem_spelling (hline w hw) hc
  obtain ⟨again, hscan, hcontent⟩ := Lexeme.exists_scan_eq hline 1 0
  have hlexemes : (ofChars 1 line.spelling.toList).lexemes = again.map .word := by
    rw [ofChars_eq_ofCode, codeOf_eq_self hplain, toList_spelling]
    exact hscan
  refine ⟨ofChars 1 line.spelling.toList, ofText_eq_singleton hplain, ?_, ?_⟩
  · rw [strays, hlexemes, List.filterMap_map]
    exact List.filterMap_eq_nil_iff.mpr fun _ _ => rfl
  · -- every lexeme is a word, so none is left out
    rw [words, hlexemes, List.filterMap_map, ← hcontent]
    exact congrArg _ (List.filterMap_some)

end SourceLine

/-- The statement on another line. -/
def Statement.on (line : SourceLine) (s : Statement) : Statement :=
  { s with line := line.number, raw := line.raw }

namespace SourceLine

/-- A line of a text that is spelled out and read again is one line again. Its words say the same
in the same order, there is nothing to remark upon, and it makes the same statements, but for the
line that they are on. Spelled out once more, it is the same. -/
theorem spelled_line_reads_back {text : String} {line : SourceLine}
    (hline : line ∈ withWords (ofText text)) :
    ∃ again, withWords (ofText line.spelling) = [again] ∧
      again.words.map Word.content = line.words.map Word.content ∧
      Program.warnings line.spelling = [] ∧
      Program.parse line.spelling =
        (Program.readLine line).map (List.map (Statement.on again)) ∧
      again.spelling = line.spelling := by
  obtain ⟨hmem, hwords⟩ := List.mem_filter.mp hline
  obtain ⟨again, htext, hstrays, hcontent⟩ :=
    exists_ofText_spelling fun w hw => proper_of_mem_words hmem hw
  have hagain : (!again.words.isEmpty) = true := by
    rw [← List.isEmpty_map (f := Word.content), hcontent, List.isEmpty_map]
    exact hwords
  refine ⟨again, ?_, hcontent, ?_, ?_, spelling_congr hcontent⟩
  · rw [htext, withWords, List.filter_cons_of_pos (by exact hagain), List.filter_nil]
  · rw [Program.warnings, htext, List.flatMap_singleton, Program.lineWarnings, hstrays]
    rfl
  · have hread : Program.readLine again =
        (Program.readLine line).map (List.map (Statement.on again)) :=
      Program.readLine_congr (fun _ => rfl) hcontent
    rw [Program.parse, htext, Program.readLines, hread]
    cases Program.readLine line <;> simp [Program.readLines, Except.map]

/-- A line with stray characters between its words: a sign without digits, a percent sign and a
number that belongs to no letter. -/
def strewnText : String := "g1 #x-.5% 2 y- (c)"

def strewnLine : SourceLine := ofChars 1 strewnText.toList

theorem strewnLine_reads_back :
    strewnLine ∈ withWords (ofText strewnText) ∧ strewnLine.spelling = "G1X-.5Y" ∧
    ∃ again, withWords (ofText strewnLine.spelling) = [again] ∧
      again.words.map Word.content = strewnLine.words.map Word.content ∧
      Program.warnings strewnLine.spelling = [] ∧
      Program.parse strewnLine.spelling =
        (Program.readLine strewnLine).map (List.map (Statement.on again)) ∧
      again.spelling = strewnLine.spelling := by
  have hmem : strewnLine ∈ withWords (ofText strewnText) := by decide +kernel
  exact ⟨hmem, by decide +kernel, spelled_line_reads_back hmem⟩

end SourceLine

end Lathe
