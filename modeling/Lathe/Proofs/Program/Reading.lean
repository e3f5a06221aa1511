import Lathe.Program.Parse
import Lathe.Program.ToolNumber
import Lathe.Proofs.Number.Infinite
import Lathe.Proofs.Program.Tiling

/-!
# Reading a program

What can go wrong when a text is read, and what its statements are like when nothing does. The only
obstacle is the number of a command word: it may be infinite, and then it is no code. The number of
a tool statement is read once more, as it was written, and that always succeeds, since what was
written is a numeral: a sign, digits of any script, and a point, of which at most the digits or what
is behind the point are there.

* `Program.parse_eq_error_iff`: a text cannot be read exactly if it has an infinite command number;
* `Program.written_of_parse`: the commands of a program are written as numerals;
* `Statement.Written.exists_toolNumber`: such a command names a tool, or none.
-/

namespace Lathe

/-! ## Digits -/

namespace Text

variable {cs : List Char} {p : Char → Bool}

theorem trim_eq_self (h : ∀ c ∈ cs, p c = false) : trim p cs = cs := by
  have hdrop {ds : List Char} (hds : ∀ c ∈ ds, p c = false) : ds.dropWhile p = ds := by
    cases ds with
    | nil => rfl
    | cons d rest => simp [hds d List.mem_cons_self]
  unfold trim
  rw [hdrop h, hdrop fun c hc => h c (List.mem_reverse.mp hc), List.reverse_reverse]

end Text

/-- Digits denote an integer, also behind a minus sign. -/
theorem exists_integer?_eq_some {sign digits : List Char} (hsign : sign = [] ∨ sign = ['-'])
    (hne : digits ≠ []) (hdigits : ∀ c ∈ digits, Text.isDigit c = true) :
    ∃ n, integer? (sign ++ digits) = some n := by
  have htrim : Text.trim Text.isMargin (sign ++ digits) = sign ++ digits := by
    apply Text.trim_eq_self
    intro c hc
    rcases List.mem_append.mp hc with hmem | hmem
    · rcases hsign with rfl | rfl
      · cases hmem
      · rw [List.mem_singleton.mp hmem]
        decide
    · exact Text.isMargin_of_isDigit (hdigits c hmem)
  have hread : (digits.isEmpty || !digits.all Text.isDigit) = false := by
    simpa [hne] using hdigits
  unfold integer?
  rw [htrim]
  rcases hsign with rfl | rfl
  · -- the first character is a digit, so it is taken for no sign
    cases digits with
    | nil => exact absurd rfl hne
    | cons d rest =>
      have hd : Text.isDigit d = true := hdigits d List.mem_cons_self
      have hminus : d ≠ '-' := fun h => absurd (h ▸ hd) (by decide)
      have hplus : d ≠ '+' := fun h => absurd (h ▸ hd) (by decide)
      split
      next negative others hsplit =>
        obtain rfl : others = d :: rest := by
          rw [List.nil_append] at hsplit
          split at hsplit
          next h => exact absurd (List.cons.inj h).1 hminus
          next h => exact absurd (List.cons.inj h).1 hplus
          next => exact (Prod.mk.inj hsplit).2.symm
        rw [hread]
        exact ⟨_, rfl⟩
  · simp only [List.cons_append, List.nil_append, hread, Bool.false_eq_true, ↓reduceIte,
      Option.some.injEq, exists_eq']

/-! ## Numerals -/

namespace Numeral

variable {cs : List Char}

/-- A numeral begins with a digit, with the point or with a minus sign, if not with a plus sign. -/
theorem dropWhile_plus_eq_self {sign whole rest : List Char} (hsign : sign = [] ∨ sign = ['-'])
    (hwhole : ∀ c ∈ whole, Text.isDigit c = true)
    (hrest : rest = [] ∨ ∃ fraction, rest = '.' :: fraction) :
    (sign ++ (whole ++ rest)).dropWhile (· == '+') = sign ++ (whole ++ rest) := by
  rcases hsign with rfl | rfl
  · cases whole with
    | nil => rcases hrest with rfl | ⟨fraction, rfl⟩ <;> rfl
    | cons d others =>
      have hd : d ≠ '+' := fun heq => absurd (heq ▸ hwhole d List.mem_cons_self) (by decide)
      simp [hd]
  · rfl

/-- What is written as the number of a command: the numeral without a plus sign. It is a minus sign
or none, digits, and nothing behind them or a point and more; digits or a point are there. -/
theorem exists_dropWhile_scan_eq (h : scan cs ≠ []) :
    ∃ sign whole rest, (scan cs).dropWhile (· == '+') = sign ++ (whole ++ rest) ∧
      (sign = [] ∨ sign = ['-']) ∧ (∀ c ∈ whole, Text.isDigit c = true) ∧
      (rest = [] ∨ ∃ fraction, rest = '.' :: fraction) ∧ whole ++ rest ≠ [] := by
  have hnumeral : IsNumeral (scan cs) := (longest_scan cs).isNumeral.resolve_left h
  generalize scan cs = numeral at hnumeral
  cases hnumeral with
  | unsigned hmagnitude =>
    obtain ⟨whole, rest, rfl, hwhole, hrest⟩ := hmagnitude.exists_eq
    exact ⟨[], whole, rest, dropWhile_plus_eq_self (.inl rfl) hwhole hrest, .inl rfl, hwhole, hrest,
      hmagnitude.ne_nil⟩
  | signed hsign hmagnitude =>
    obtain ⟨whole, rest, rfl, hwhole, hrest⟩ := hmagnitude.exists_eq
    rcases eq_of_isSign hsign with rfl | rfl
    · refine ⟨[], whole, rest, ?_, .inl rfl, hwhole, hrest, hmagnitude.ne_nil⟩
      exact dropWhile_plus_eq_self (.inl rfl) hwhole hrest
    · exact ⟨['-'], whole, rest, rfl, .inr rfl, hwhole, hrest, hmagnitude.ne_nil⟩

end Numeral

/-! ## Tool numbers -/

namespace Statement

variable {s : Statement}

/-- The number of a command, if it has one, is written as a numeral, without a plus sign. -/
def Written (s : Statement) : Prop :=
  s.code ≠ none → ∃ cs, Numeral.scan cs ≠ [] ∧
    s.codeText = String.ofList ((Numeral.scan cs).dropWhile (· == '+'))

/-- What stands before the point of a written number: a minus sign or none, and digits. -/
theorem Written.exists_wholeText_eq (h : s.Written) {code : Code} (hcode : s.code = some code) :
    ∃ sign whole, s.wholeText code = .ok (sign ++ whole) ∧ (sign = [] ∨ sign = ['-']) ∧
      ∀ c ∈ whole, Text.isDigit c = true := by
  obtain ⟨cs, hscan, htext⟩ := h (hcode ▸ nofun)
  obtain ⟨sign, whole, rest, heq, hsign, hwhole, hrest, hne⟩ :=
    Numeral.exists_dropWhile_scan_eq hscan
  rw [heq] at htext
  refine ⟨sign, whole, ?_, hsign, hwhole⟩
  have hwritten : s.codeText.isEmpty = false := by
    rw [htext, Bool.eq_false_iff, ne_eq, String.isEmpty_iff]
    intro hempty
    have hnil : sign ++ (whole ++ rest) = [] := by simpa using hempty
    exact hne (List.append_eq_nil_iff.mp hnil).2
  have hbefore : ∀ c ∈ sign ++ whole, (c != '.') = true := by
    intro c hc
    rcases List.mem_append.mp hc with hmem | hmem
    · rcases hsign with rfl | rfl
      · cases hmem
      · rw [List.mem_singleton.mp hmem]
        rfl
    · rw [bne_iff_ne]
      rintro rfl
      exact absurd (hwhole _ hmem) (by decide)
  have hbehind : rest.takeWhile (· != '.') = [] := by
    rcases hrest with rfl | ⟨fraction, rfl⟩ <;> rfl
  unfold wholeText
  dsimp only
  rw [hwritten, htext, String.toList_ofList, Numeral.dropWhile_plus_eq_self hsign hwhole hrest,
    ← List.append_assoc, List.takeWhile_append_of_pos hbefore, hbehind, List.append_nil]
  rfl

/-- A command that is written as a numeral names a tool, or none. -/
theorem Written.exists_toolNumber (h : s.Written) : ∃ id, s.toolNumber = .ok id := by
  cases hcode : s.code with
  | none => exact ⟨none, by simp only [toolNumber, hcode]⟩
  | some code =>
    obtain ⟨sign, whole, hwhole, hsign, hdigits⟩ := h.exists_wholeText_eq hcode
    simp only [toolNumber, hcode, hwhole]
    split
    · exact ⟨none, rfl⟩
    next hnumber =>
      -- of the two characters that name the tool, at least one is a digit
      have hfirst : ∃ digits, (sign ++ whole).take 2 = sign ++ digits ∧ digits ≠ [] ∧
          ∀ c ∈ digits, Text.isDigit c = true := by
        have hne : whole ≠ [] := by
          rintro rfl
          rcases hsign with rfl | rfl <;> simp at hnumber
        have htake (count : Nat) : ∀ c ∈ whole.take count, Text.isDigit c = true := fun c hc =>
          hdigits c (List.mem_of_mem_take hc)
        rcases hsign with rfl | rfl
        · exact ⟨whole.take 2, rfl, by simpa using hne, htake 2⟩
        · exact ⟨whole.take 1, rfl, by simpa using hne, htake 1⟩
      obtain ⟨digits, htake, hne, hall⟩ := hfirst
      obtain ⟨n, hn⟩ := exists_integer?_eq_some hsign hne hall
      rw [htake, hn]
      exact ⟨some n, rfl⟩

end Statement

/-! ## Words -/

theorem Code.ofNumber_eq_error_iff {x : Float} {fault : Fault} (h : x.isNaN = false) :
    ofNumber x = .error fault ↔ fault = .notReal .infinite ∧ x.isInf = true := by
  have htruncate := @truncate_eq_error_iff x fault
  rw [h] at htruncate
  simp only [Bool.false_eq_true, and_false, or_false] at htruncate
  rw [← htruncate]
  unfold ofNumber
  cases truncate x <;> simp

namespace Word

variable {w : Word} {fault : Fault}

/-- A word is read from a text: what is written behind its letter is the numeral there, and its
number, if it has one, is what that denotes. -/
def Scanned (w : Word) : Prop :=
  ∃ cs, w.text = String.ofList (Numeral.scan cs) ∧
    w.value = if Numeral.scan cs = [] then none else some (Numeral.value (Numeral.scan cs))

/-- A command word whose number is infinite. -/
def Overflows (w : Word) : Prop :=
  (w.letter = 'G' ∨ w.letter = 'M' ∨ w.letter = 'T') ∧ ∃ x, w.value = some x ∧ x.isInf = true

/-- The number of a word that was read is no code exactly if it is infinite. -/
theorem Scanned.code_eq_error_iff (h : w.Scanned) :
    w.code = .error fault ↔
      fault = .notReal .infinite ∧ ∃ x, w.value = some x ∧ x.isInf = true := by
  obtain ⟨cs, -, hvalue⟩ := h
  unfold code
  split at hvalue
  · simp [hvalue]
  · have hcode := @Code.ofNumber_eq_error_iff _ fault (Numeral.isNaN_value (Numeral.scan cs))
    simp only [hvalue, Option.some.injEq, exists_eq_left', ← hcode]
    cases Code.ofNumber (Numeral.value (Numeral.scan cs)) <;> simp [Except.map]

/-- A code that was read is written as a numeral. -/
theorem Scanned.exists_codeText_eq (h : w.Scanned) {code : Option Code} (hcode : w.code = .ok code)
    (hne : code ≠ none) :
    ∃ cs, Numeral.scan cs ≠ [] ∧
      w.codeText = String.ofList ((Numeral.scan cs).dropWhile (· == '+')) := by
  obtain ⟨cs, htext, hvalue⟩ := h
  refine ⟨cs, ?_, ?_⟩
  · -- without a numeral there is no number, and without a number no code
    intro hnil
    rw [if_pos hnil] at hvalue
    rw [Word.code, hvalue] at hcode
    cases hcode
    exact hne rfl
  · rw [codeText, htext, String.toList_ofList]

end Word

theorem Kind.ofLetter?_eq_none_iff {letter : Char} :
    ofLetter? letter = none ↔ ¬(letter = 'G' ∨ letter = 'M' ∨ letter = 'T') := by
  unfold ofLetter?
  repeat' split
  all_goals simp_all

/-- The words of a code are read from it. -/
theorem Lexeme.scanned_of_mem {w : Word} {line place : Nat} {cs : List Char}
    (h : .word w ∈ scan line place cs) : w.Scanned := by
  obtain ⟨start, c, rest, -, rfl⟩ := exists_eq_wordAt h
  refine ⟨rest, rfl, ?_⟩
  simp only [wordAt, List.isEmpty_iff]

/-- The words of a text are read from it. -/
theorem SourceLine.scanned_of_mem_words {text : String} {line : SourceLine} {w : Word}
    (hline : line ∈ ofText text) (hw : w ∈ line.words) : w.Scanned := by
  obtain ⟨⟨cs, number⟩, -, rfl⟩ := List.mem_map.mp hline
  exact Lexeme.scanned_of_mem (Lexeme.mem_filterMap_word?.mp hw)

/-! ## Lines -/

theorem Fault.map_eq_error_iff {α β : Type} {f : α → β} {answer : Except Fault α} {fault : Fault} :
    answer.map f = .error fault ↔ answer = .error fault := by
  cases answer <;> simp [Except.map]

/-- What would be a fault is not so if there is an answer. -/
theorem Fault.not_of_eq_ok {α : Type} {answer : Except Fault α} {fault : Fault} {a : α} {p : Prop}
    (h : answer = .ok a) (hfault : p → answer = .error fault) : ¬p := by
  intro hp
  cases h.symm.trans (hfault hp)

/-- Whatever becomes of a draft, its command is written as a numeral. -/
def Draft.Written (draft : Draft) : Prop :=
  ∀ line raw, (draft.complete line raw).Written

theorem Draft.written_empty : Draft.empty.Written :=
  fun _ _ hcode => absurd rfl hcode

/-- The command that a word makes is written as a numeral. -/
theorem Word.Scanned.written {w : Word} (h : w.Scanned) {code : Option Code}
    (hcode : w.code = .ok code) (kind : Kind) (params : Params) :
    Draft.Written ⟨some (kind, code, w.codeText), params⟩ :=
  fun _ _ hne => h.exists_codeText_eq hcode hne

namespace Program

variable {number : Nat} {raw : String} {draft : Draft} {words : List Word} {fault : Fault}
  {statements : List Statement} {line : SourceLine} {lines : List SourceLine}

/-- Words cannot be read exactly if one of them is a command word whose number is infinite. -/
theorem readWords_eq_error_iff (hwords : ∀ w ∈ words, w.Scanned) :
    readWords number raw draft words = .error fault ↔
      fault = .notReal .infinite ∧ ∃ w ∈ words, w.Overflows := by
  induction words generalizing draft with
  | nil => simp [readWords]
  | cons w rest ih =>
    obtain ⟨hw, hrest⟩ := List.forall_mem_cons.mp hwords
    simp only [readWords, List.mem_cons, exists_eq_or_imp]
    cases hkind : Kind.ofLetter? w.letter with
    | none =>
      -- a parameter may be as large as it likes
      have hfits : ¬w.Overflows := fun h => Kind.ofLetter?_eq_none_iff.mp hkind h.1
      rw [ih hrest, or_iff_right hfits]
    | some kind =>
      have hletter : w.letter = 'G' ∨ w.letter = 'M' ∨ w.letter = 'T' := by
        refine Decidable.of_not_not fun h => ?_
        rw [Kind.ofLetter?_eq_none_iff.mpr h] at hkind
        cases hkind
      cases hcode : w.code with
      | error reason =>
        obtain ⟨rfl, hinfinite⟩ := hw.code_eq_error_iff.mp hcode
        have hoverflows : w.Overflows := ⟨hletter, hinfinite⟩
        simp [hoverflows, eq_comm]
      | ok code =>
        have hfits : ¬w.Overflows :=
          Fault.not_of_eq_ok hcode fun h => hw.code_eq_error_iff.mpr ⟨rfl, h.2⟩
        rw [or_iff_right hfits]
        dsimp only
        split
        · rw [Fault.map_eq_error_iff, ih hrest]
        · exact ih hrest

/-- The statements that are read from words are written as numerals. -/
theorem written_of_readWords (hwords : ∀ w ∈ words, w.Scanned) (hdraft : draft.Written)
    (h : readWords number raw draft words = .ok statements) : ∀ s ∈ statements, s.Written := by
  induction words generalizing draft statements with
  | nil =>
    cases h
    intro s hs
    rw [List.mem_singleton.mp hs]
    exact hdraft number raw
  | cons w rest ih =>
    obtain ⟨hw, hrest⟩ := List.forall_mem_cons.mp hwords
    rw [readWords] at h
    split at h
    · have hparam : (draft.addParam w).Written := fun line raw => hdraft line raw
      exact ih hrest hparam h
    next kind _ =>
      cases hcode : w.code with
      | error reason =>
        rw [hcode] at h
        cases h
      | ok code =>
        simp only [hcode] at h
        split at h
        · -- the draft is complete, and the word begins the next one
          cases hnext : readWords number raw ⟨some (kind, code, w.codeText), []⟩ rest with
          | error reason =>
            rw [hnext] at h
            cases h
          | ok others =>
            rw [hnext] at h
            cases h
            exact List.forall_mem_cons.mpr
              ⟨hdraft number raw, ih hrest (hw.written hcode kind []) hnext⟩
        · exact ih hrest (hw.written hcode kind draft.params) h

theorem readLine_eq_error_iff (hline : ∀ w ∈ line.words, w.Scanned) :
    readLine line = .error fault ↔
      fault = .notReal .infinite ∧ ∃ w ∈ line.words, w.Overflows := by
  unfold readLine
  split
  next hempty =>
    rw [List.isEmpty_iff] at hempty
    simp [hempty]
  next => exact readWords_eq_error_iff hline

theorem readLines_eq_error_iff (hlines : ∀ line ∈ lines, ∀ w ∈ line.words, w.Scanned) :
    readLines lines = .error fault ↔
      fault = .notReal .infinite ∧ ∃ line ∈ lines, ∃ w ∈ line.words, w.Overflows := by
  induction lines with
  | nil => simp [readLines]
  | cons line rest ih =>
    obtain ⟨hline, hrest⟩ := List.forall_mem_cons.mp hlines
    simp only [readLines, List.mem_cons, exists_eq_or_imp]
    cases hread : readLine line with
    | error reason =>
      obtain ⟨rfl, hoverflows⟩ := (readLine_eq_error_iff hline).mp hread
      simp [hoverflows, eq_comm]
    | ok statements =>
      have hfits : ¬∃ w ∈ line.words, w.Overflows :=
        Fault.not_of_eq_ok hread fun h => (readLine_eq_error_iff hline).mpr ⟨rfl, h⟩
      rw [or_iff_right hfits]
      exact Fault.map_eq_error_iff.trans (ih hrest)

theorem written_of_readLines (hlines : ∀ line ∈ lines, ∀ w ∈ line.words, w.Scanned)
    (h : readLines lines = .ok statements) : ∀ s ∈ statements, s.Written := by
  induction lines generalizing statements with
  | nil =>
    cases h
    nofun
  | cons line rest ih =>
    obtain ⟨hline, hrest⟩ := List.forall_mem_cons.mp hlines
    rw [readLines] at h
    cases hread : readLine line with
    | error reason =>
      rw [hread] at h
      cases h
    | ok first =>
      cases hothers : readLines rest with
      | error reason =>
        rw [hread, hothers] at h
        cases h
      | ok others =>
        rw [hread, hothers] at h
        cases h
        have hfirst : ∀ s ∈ first, s.Written := by
          unfold readLine at hread
          split at hread
          · cases hread
            nofun
          · exact written_of_readWords hline Draft.written_empty hread
        exact List.forall_mem_append.mpr ⟨hfirst, ih hrest hothers⟩

/-- A text cannot be read exactly if some command word of some line has an infinite number. -/
theorem parse_eq_error_iff {text : String} :
    parse text = .error fault ↔
      fault = .notReal .infinite ∧
        ∃ line ∈ SourceLine.ofText text, ∃ w ∈ line.words, w.Overflows :=
  readLines_eq_error_iff fun _ hline _ hw => SourceLine.scanned_of_mem_words hline hw

/-- The commands of a program are written as numerals. -/
theorem written_of_parse {text : String} {program : List Statement} (h : parse text = .ok program) :
    ∀ s ∈ program, s.Written :=
  written_of_readLines (fun _ hline _ hw => SourceLine.scanned_of_mem_words hline hw) h

end Program

end Lathe
