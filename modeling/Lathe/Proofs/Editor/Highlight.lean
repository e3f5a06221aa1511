import Lathe.Editor.Highlight
import Lathe.Proofs.Program.Respelling
import Mathlib.Data.List.Infix
import Mathlib.Data.List.TakeWhile

/-!
# Highlighted words are the words that are read

The editor and the reader of programs look for words in different texts. The editor takes the line
as it stands, and lets blanks stand between a letter and its numeral; the reader takes the code of
the line, in upper case and without any blanks. Without the blanks, digits that stood apart come
together, so the two may differ on a line such as `X1 2`. They agree on every line of ASCII in which
no blanks stand between two characters of numbers.

* `Numeral.scan_takeWhile`: a numeral is read off the characters of numbers at the start of a text;
* `SourceLine.Legible.scan_codeOf`: behind a letter, both find the same numeral;
* `WordSpan.map_scan_eq`: so they find the same words;
* `Highlight.shows_words_as_read`: all of this for a line with its comment.
-/

namespace Lathe

/-! ## Characters of numbers -/

namespace Numeral

variable {cs ds numeral : List Char} {c : Char}

/-- Whether `c` is a character of numbers: a digit, a sign or the point. -/
def isSymbol (c : Char) : Bool :=
  Text.isDigit c || isSign c || c == '.'

theorem IsNumeral.isSymbol_of_mem (h : IsNumeral cs) (hc : c ∈ cs) : isSymbol c = true := by
  unfold isSymbol
  rcases h.of_mem hc with rfl | rfl | rfl | hdigit
  · rfl
  · rfl
  · rfl
  · rw [hdigit]
    rfl

/-- Characters of numbers are no blanks. -/
theorem isBlank_of_isSymbol (h : isSymbol c = true) : Text.isBlank c = false := by
  rw [isSymbol, Bool.or_eq_true, Bool.or_eq_true] at h
  rcases h with (hdigit | hsign) | hpoint
  · exact Text.isBlank_of_isDigit hdigit
  · rcases eq_of_isSign hsign with rfl | rfl <;> decide
  · rw [beq_iff_eq.mp hpoint]
    decide

/-- A numeral stands at the start of a text exactly if it stands at the start of the characters of
numbers there. -/
theorem IsNumeral.prefix_takeWhile_iff (h : IsNumeral ds) :
    ds <+: cs.takeWhile isSymbol ↔ ds <+: cs := by
  constructor
  · exact fun hds => hds.trans (List.takeWhile_prefix _)
  · rintro ⟨rest, rfl⟩
    rw [List.takeWhile_append_of_pos fun c hc => h.isSymbol_of_mem hc]
    exact List.prefix_append _ _

/-- What is behind the characters of numbers at the start of a text does not matter for the numeral
there. -/
theorem scan_takeWhile (cs : List Char) : scan (cs.takeWhile isSymbol) = scan cs := by
  have hlongest := longest_scan cs
  refine scan_eq_iff.mpr ⟨?_, hlongest.isNumeral, fun other hother h => ?_⟩
  · rcases hlongest.isNumeral with hnil | hnumeral
    · rw [hnil]
      exact List.nil_prefix
    · exact hnumeral.prefix_takeWhile_iff.mpr hlongest.starts
  · exact hlongest.length_le other (h.prefix_takeWhile_iff.mp hother) h

/-- A number is broken at the start of a text: there is a character of numbers, then blanks, and
then a character of numbers again. -/
def breaks : List Char → Bool
  | c :: blank :: rest =>
    isSymbol c && Text.isBlank blank && (rest.dropWhile Text.isBlank).head?.any isSymbol
  | _ => false

/-- No blanks of a text have characters of numbers on both sides. -/
def Unbroken (cs : List Char) : Prop :=
  ∀ tail ∈ cs.tails, breaks tail = false

instance (cs : List Char) : Decidable (Unbroken cs) :=
  inferInstanceAs (Decidable (∀ tail ∈ cs.tails, breaks tail = false))

theorem Unbroken.of_suffix (h : Unbroken cs) (hds : ds <:+ cs) : Unbroken ds := by
  intro tail htail
  rw [List.mem_tails] at htail
  exact h tail ((List.mem_tails _ _).mpr (htail.trans hds))

end Numeral

/-! ## ASCII -/

/-- In ASCII, upper-casing keeps every character in its class, and changes letters only. -/
theorem Text.toUpper_ascii {c : Char} (h : c.toNat < 128) :
    Lexeme.isLetter c.toUpper = c.isAlpha ∧ isBlank c.toUpper = isBlank c ∧
      Numeral.isSymbol c.toUpper = Numeral.isSymbol c ∧
      (Numeral.isSymbol c = true → c.toUpper = c) := by
  have htable : ∀ n < 128,
      Lexeme.isLetter (Char.ofNat n).toUpper = (Char.ofNat n).isAlpha ∧
      isBlank (Char.ofNat n).toUpper = isBlank (Char.ofNat n) ∧
      Numeral.isSymbol (Char.ofNat n).toUpper = Numeral.isSymbol (Char.ofNat n) ∧
      (Numeral.isSymbol (Char.ofNat n) = true → (Char.ofNat n).toUpper = Char.ofNat n) := by
    decide +kernel
  have hc := htable c.toNat h
  rwa [Char.ofNat_toNat] at hc

/-! ## The code of a line as it is shown -/

namespace SourceLine

variable {cs ds rest : List Char} {c : Char}

/-- The code of a line, as it stands there, can be read with its blanks or without them: it is
ASCII, and no blanks break a number. -/
structure Legible (cs : List Char) : Prop where
  /-- It is ASCII. -/
  ascii : ∀ c ∈ cs, c.toNat < 128
  /-- It is code. -/
  isCode : ∀ c ∈ cs, opensComment c = false
  /-- No blanks have characters of numbers on both sides. -/
  unbroken : Numeral.Unbroken cs

namespace Legible

theorem of_suffix (h : Legible cs) (hds : ds <:+ cs) : Legible ds where
  ascii c hc := h.ascii c (hds.subset hc)
  isCode c hc := h.isCode c (hds.subset hc)
  unbroken := h.unbroken.of_suffix hds

theorem tail (h : Legible (c :: rest)) : Legible rest :=
  h.of_suffix (List.suffix_cons c rest)

theorem codeOf_cons_of_not_isBlank (h : Legible (c :: rest)) (hc : Text.isBlank c = false) :
    codeOf (c :: rest) = c.toUpper :: codeOf rest := by
  have hascii : c.toNat < 128 := h.ascii c List.mem_cons_self
  have hupper : Text.upper c = [c.toUpper] := if_pos hascii
  have hblank : Text.isBlank c.toUpper = false := (Text.toUpper_ascii hascii).2.1.trans hc
  rw [codeOf_cons (h.isCode c List.mem_cons_self), hupper,
    List.filter_cons_of_pos (by simp [hblank])]
  rfl

end Legible

theorem isBlank_of_head?_dropWhile (cs : List Char) :
    ∀ c ∈ (cs.dropWhile Text.isBlank).head?, Text.isBlank c = false := by
  intro c hc
  have hnot := List.head?_dropWhile_not Text.isBlank cs
  simpa [Option.mem_def.mp hc] using hnot

/-- Blanks at the start of a line are not in its code. -/
theorem codeOf_dropWhile (cs : List Char) : codeOf (cs.dropWhile Text.isBlank) = codeOf cs := by
  induction cs with
  | nil => rfl
  | cons c rest ih =>
    cases hc : Text.isBlank c with
    | true => rw [List.dropWhile_cons_of_pos hc, ih, codeOf_of_isBlank hc]
    | false => rw [List.dropWhile_cons_of_neg (by simp [hc])]

/-- Behind blanks and a numeral, the code goes on with the code of what is left. -/
theorem drop_codeOf (cs : List Char) :
    let numeral := Numeral.scan (cs.dropWhile Text.isBlank)
    (codeOf cs).drop numeral.length =
      codeOf (cs.drop ((cs.takeWhile Text.isBlank).length + numeral.length)) := by
  intro numeral
  have hplain : ∀ c ∈ numeral, Plain c := by
    intro c hc
    have hread := (Numeral.longest_scan (cs.dropWhile Text.isBlank)).isNumeral
    exact plain_of_isNumeral (hread.resolve_left (List.ne_nil_of_mem hc)) hc
  have hbehind : cs.drop (cs.takeWhile Text.isBlank).length = cs.dropWhile Text.isBlank := by
    have hdrop := @List.drop_left _ (cs.takeWhile Text.isBlank) (cs.dropWhile Text.isBlank)
    rwa [List.takeWhile_append_dropWhile] at hdrop
  calc
    (codeOf cs).drop numeral.length
    _ = (codeOf (numeral ++ (cs.dropWhile Text.isBlank).drop numeral.length)).drop
          numeral.length := by rw [← Lexeme.eq_append_drop, codeOf_dropWhile]
    _ = codeOf ((cs.dropWhile Text.isBlank).drop numeral.length) := by
      rw [codeOf_append fun c hc => (hplain c hc).opens, codeOf_eq_self hplain, List.drop_left]
    _ = _ := by rw [← hbehind, List.drop_drop]

namespace Legible

/-- Where blanks follow a character of numbers, the code behind them begins with none. -/
theorem takeWhile_codeOf_of_isBlank {d : Char} (h : Legible (c :: d :: rest))
    (hc : Numeral.isSymbol c = true) (hd : Text.isBlank d = true) :
    (codeOf (d :: rest)).takeWhile Numeral.isSymbol = [] := by
  have hbreaks : (rest.dropWhile Text.isBlank).head?.any Numeral.isSymbol = false := by
    have hunbroken := h.unbroken (c :: d :: rest) ((List.mem_tails _ _).mpr List.suffix_rfl)
    rwa [Numeral.breaks, hc, hd, Bool.true_and, Bool.true_and] at hunbroken
  have hbehind : Legible (rest.dropWhile Text.isBlank) :=
    h.tail.tail.of_suffix (List.dropWhile_suffix _)
  rw [codeOf_of_isBlank hd, ← codeOf_dropWhile]
  cases hrest : rest.dropWhile Text.isBlank with
  | nil => rfl
  | cons e others =>
    rw [hrest] at hbreaks hbehind
    have hblank : Text.isBlank e = false := isBlank_of_head?_dropWhile rest e (by rw [hrest]; rfl)
    have hsymbol : Numeral.isSymbol e.toUpper = false :=
      (Text.toUpper_ascii (hbehind.ascii e List.mem_cons_self)).2.2.1.trans hbreaks
    rw [hbehind.codeOf_cons_of_not_isBlank hblank,
      List.takeWhile_cons_of_neg (by simp [hsymbol])]

/-- Of a text that begins with no blank, the code begins with the same characters of numbers. -/
theorem takeWhile_codeOf (h : Legible cs) (hhead : ∀ c ∈ cs.head?, Text.isBlank c = false) :
    (codeOf cs).takeWhile Numeral.isSymbol = cs.takeWhile Numeral.isSymbol := by
  induction cs with
  | nil => rfl
  | cons c rest ih =>
    obtain ⟨-, -, hsymbol, hself⟩ := Text.toUpper_ascii (h.ascii c List.mem_cons_self)
    rw [h.codeOf_cons_of_not_isBlank (hhead c rfl)]
    cases hc : Numeral.isSymbol c with
    | false =>
      rw [List.takeWhile_cons_of_neg (by simp [hsymbol, hc]),
        List.takeWhile_cons_of_neg (by simp [hc])]
    | true =>
      rw [hself hc, List.takeWhile_cons_of_pos hc, List.takeWhile_cons_of_pos hc]
      congr 1
      cases rest with
      | nil => rfl
      | cons d others =>
        cases hd : Text.isBlank d with
        | false => exact ih h.tail fun e he => Option.mem_some.mp he ▸ hd
        | true =>
          -- the number ends here, on the line as in its code
          have hsymbol' : ¬Numeral.isSymbol d = true := fun hsymbol' =>
            Bool.false_ne_true ((Numeral.isBlank_of_isSymbol hsymbol').symm.trans hd)
          rw [h.takeWhile_codeOf_of_isBlank hc hd, List.takeWhile_cons_of_neg hsymbol']

/-- Behind a letter, the numeral of the code is the one that stands behind the blanks. -/
theorem scan_codeOf (h : Legible cs) :
    Numeral.scan (codeOf cs) = Numeral.scan (cs.dropWhile Text.isBlank) := by
  have htake := (h.of_suffix (List.dropWhile_suffix _)).takeWhile_codeOf
    (isBlank_of_head?_dropWhile cs)
  rw [← Numeral.scan_takeWhile (codeOf cs), ← codeOf_dropWhile, htake, Numeral.scan_takeWhile]

/-- What is before the comment of a line of ASCII. -/
theorem of_cutComment (hascii : ∀ c ∈ cs, c.toNat < 128)
    (hunbroken : Numeral.Unbroken (cutComment cs)) : Legible (cutComment cs) where
  ascii c hc := hascii c ((List.takeWhile_prefix _).subset hc)
  isCode c hc := by simpa using List.mem_takeWhile_imp hc
  unbroken := hunbroken

end Legible

theorem codeOf_cutComment (cs : List Char) : codeOf (cutComment cs) = codeOf cs := by
  unfold codeOf cutComment
  rw [List.takeWhile_idem]

end SourceLine

/-! ## Words -/

namespace WordSpan

variable {place first : Nat} {cs : List Char} {w : WordSpan}

/-- The words that are shown are those that are read, wherever the code begins. -/
theorem map_scan_eq (h : SourceLine.Legible cs) (line : Nat) :
    (scan place cs).map (fun w => (w.letter, String.ofList w.numeral)) =
      ((Lexeme.scan line first (SourceLine.codeOf cs)).filterMap Lexeme.word?).map
        fun w => (w.letter, w.text) := by
  fun_induction scan place cs generalizing first with
  | case1 => simp [SourceLine.codeOf, SourceLine.cutComment, Text.upperText, Lexeme.scan]
  | case2 place c rest halpha blanks numeral length =>
    rename_i ih
    obtain ⟨hletter, hblank, -⟩ := Text.toUpper_ascii (h.ascii c List.mem_cons_self)
    rw [halpha] at hletter
    -- the numeral behind the letter is the same, and so is the code behind that
    have hnumeral := h.tail.scan_codeOf
    have hdrop := SourceLine.drop_codeOf rest
    rw [h.codeOf_cons_of_not_isBlank (hblank ▸ Text.isBlank_of_isLetter hletter), Lexeme.scan,
      if_pos hletter, hnumeral]
    dsimp only
    rw [hdrop, List.map_cons, List.filterMap_cons_some (by rfl), List.map_cons]
    congr 1
    exact ih (h.tail.of_suffix (List.drop_suffix _ _))
  | case3 place c rest halpha ih =>
    obtain ⟨hletter, -⟩ := Text.toUpper_ascii (h.ascii c List.mem_cons_self)
    cases hblank : Text.isBlank c with
    | true => rw [SourceLine.codeOf_of_isBlank hblank, ih h.tail]
    | false =>
      -- a character that begins no word is stray
      rw [h.codeOf_cons_of_not_isBlank hblank, Lexeme.scan, if_neg (by rw [hletter]; exact halpha),
        List.filterMap_cons_none (by rfl)]
      exact ih h.tail

/-- A word ends where the code ends or before. -/
theorem stop_le_of_mem (h : w ∈ scan place cs) : w.start + w.length ≤ place + cs.length := by
  fun_induction scan place cs with
  | case1 => cases h
  | case2 place c rest halpha blanks numeral length =>
    rename_i ih
    have hlength : blanks.length + numeral.length ≤ rest.length := by
      have hnumeral := (Numeral.longest_scan (rest.dropWhile Text.isBlank)).starts.length_le
      have hsplit := congrArg List.length (@List.takeWhile_append_dropWhile _ Text.isBlank rest)
      rw [List.length_append] at hsplit
      change (rest.takeWhile Text.isBlank).length +
        (Numeral.scan (rest.dropWhile Text.isBlank)).length ≤ rest.length
      omega
    rw [List.length_cons]
    rcases List.mem_cons.mp h with rfl | hmem
    · change place + (1 + (blanks.length + numeral.length)) ≤ _
      omega
    · have hrest := ih hmem
      rw [List.length_drop] at hrest
      omega
  | case3 place c rest halpha ih =>
    have hrest := ih h
    rw [List.length_cons]
    omega

end WordSpan

/-! ## Comments -/

/-- No word is shown like a comment. -/
theorem Role.style_ne_of_ofWord? {letter : Char} {numeral : List Char} {role : Role}
    (h : Role.ofWord? letter numeral = some role) : role.style ≠ Role.comment.style := by
  have hrole : role ≠ .comment := by
    rintro rfl
    unfold ofWord? ofNumber ofParameter? at h
    grind
  cases role with
  | comment => exact absurd rfl hrole
  | _ => decide

namespace Highlight

variable {line : String} {h : Highlight}

/-- The span covers a place of the line. -/
def Covers (h : Highlight) (place : Nat) : Prop :=
  h.start ≤ place ∧ place < h.start + h.length

theorem mem_spans_iff :
    h ∈ spans line ↔
      h ∈ comment? line.toList ∨ ∃ w ∈ words line.toList, h ∈ ofWord? w := by
  rw [spans, List.mem_append, Option.mem_toList, List.mem_filterMap]
  rfl

theorem covers_comment_iff {place : Nat} :
    (∃ h ∈ comment? line.toList, h.Covers place) ↔
      (SourceLine.cutComment line.toList).length ≤ place ∧ place < line.toList.length := by
  unfold comment? Covers
  dsimp only
  split
  · simp only [Option.mem_some_iff, exists_eq_left']
    omega
  · simp only [Option.mem_def, reduceCtorEq, false_and, exists_false, false_iff]
    omega

/-- A span that shows a word does not show a comment, and ends before the comment begins. -/
theorem of_mem_ofWord? {w : WordSpan} (hw : w ∈ words line.toList) (hspan : h ∈ ofWord? w) :
    h.style ≠ Role.comment.style ∧
      h.start + h.length ≤ (SourceLine.cutComment line.toList).length := by
  obtain ⟨role, hrole, rfl⟩ := Option.map_eq_some_iff.mp hspan
  refine ⟨Role.style_ne_of_ofWord? hrole, ?_⟩
  have hstop := WordSpan.stop_le_of_mem hw
  rwa [Nat.zero_add] at hstop

theorem style_of_mem_comment? (hspan : h ∈ comment? line.toList) :
    h.style = Role.comment.style := by
  unfold comment? at hspan
  dsimp only at hspan
  split at hspan
  · cases hspan
    rfl
  · cases hspan

/-- The editor shows the words that are read. Let a line be ASCII, and let no blanks in its code
have characters of numbers on both sides. The words that are found on the line as it stands have the
letters, in upper case, and the numerals of those that are read from its code, in the same order.
What is shown as a comment is what is cut off as one, from its first character to its last, and
nothing else is shown there. -/
theorem shows_words_as_read (number : Nat) (line : String)
    (hascii : ∀ c ∈ line.toList, c.toNat < 128)
    (hunbroken : Numeral.Unbroken (SourceLine.cutComment line.toList)) :
    (words line.toList).map (fun w => (w.letter, String.ofList w.numeral)) =
      (SourceLine.ofChars number line.toList).words.map (fun w => (w.letter, w.text)) ∧
    (∀ place, (∃ h ∈ spans line, h.style = Role.comment.style ∧ h.Covers place) ↔
      (SourceLine.cutComment line.toList).length ≤ place ∧ place < line.toList.length) ∧
    ∀ h ∈ spans line, h.style ≠ Role.comment.style →
      h.start + h.length ≤ (SourceLine.cutComment line.toList).length := by
  have hlegible := SourceLine.Legible.of_cutComment hascii hunbroken
  refine ⟨?_, fun place => ?_, fun h hspan hstyle => ?_⟩
  · rw [SourceLine.ofChars_eq_ofCode, ← SourceLine.codeOf_cutComment]
    exact WordSpan.map_scan_eq hlegible number
  · rw [← covers_comment_iff]
    constructor
    · rintro ⟨h, hspan, hstyle, hcovers⟩
      rcases mem_spans_iff.mp hspan with hcomment | ⟨w, hw, hword⟩
      · exact ⟨h, hcomment, hcovers⟩
      · exact absurd hstyle (of_mem_ofWord? hw hword).1
    · rintro ⟨h, hcomment, hcovers⟩
      exact ⟨h, mem_spans_iff.mpr (.inl hcomment), style_of_mem_comment? hcomment, hcovers⟩
  · rcases mem_spans_iff.mp hspan with hcomment | ⟨w, hw, hword⟩
    · exact absurd (style_of_mem_comment? hcomment) hstyle
    · exact (of_mem_ofWord? hw hword).2

/-- The hypothesis on blanks is needed: on this line, `X1` is shown and `X12` is read. -/
example :
    ((words "X1 2".toList).map fun w => String.ofList w.numeral) = ["1"] ∧
      ((SourceLine.ofChars 1 "X1 2".toList).words.map fun w => w.text) = ["12"] := by
  decide +kernel

/-- A line with blanks inside its words, letters without a number, a sign behind a stray character,
and a comment with a word in it. -/
def annotatedLine : String := "n 10 g1x -.5/+ t  y-(g2 ;"

theorem annotatedLine_shown :
    let line := annotatedLine
    (∀ c ∈ line.toList, c.toNat < 128) ∧ Numeral.Unbroken (SourceLine.cutComment line.toList) ∧
    (SourceLine.ofChars 1 line.toList).words.map (fun w => (w.letter, w.text)) =
      [('N', "10"), ('G', "1"), ('X', "-.5"), ('T', ""), ('Y', "")] ∧
    (words line.toList).map (fun w => (w.letter, String.ofList w.numeral)) =
      (SourceLine.ofChars 1 line.toList).words.map (fun w => (w.letter, w.text)) ∧
    ∀ place, (∃ h ∈ spans line, h.style = Role.comment.style ∧ h.Covers place) ↔
      20 ≤ place ∧ place < 25 := by
  intro line
  have hascii : ∀ c ∈ line.toList, c.toNat < 128 := by
    have hall : (line.toList.all fun c => decide (c.toNat < 128)) = true := by decide +kernel
    simpa only [List.all_eq_true, decide_eq_true_eq] using hall
  have hunbroken : Numeral.Unbroken (SourceLine.cutComment line.toList) := by decide +kernel
  have hlength : (SourceLine.cutComment line.toList).length = 20 ∧ line.toList.length = 25 := by
    decide +kernel
  obtain ⟨hwords, hcomment, -⟩ := shows_words_as_read 1 line hascii hunbroken
  rw [hlength.1, hlength.2] at hcomment
  exact ⟨hascii, hunbroken, by decide +kernel, hwords, hcomment⟩

end Highlight

end Lathe
