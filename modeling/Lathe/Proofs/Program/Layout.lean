import Lathe.Proofs.Program.Lines
import Lathe.Proofs.Text.Class
import Mathlib.Data.List.Forall2
import Mathlib.Logic.Relation

/-!
# Layout, case and comments

Blanks in the code of a line, the case of its letters and its comment carry no meaning. All that is
read of a line is its code, in upper case and without blanks, and none of them is left in it.

* `SourceLine.codeOf_cons`: the code of a line, character by character;
* `SourceLine.Edit`: the edits in question, and `SourceLine.Edit.codeOf_eq`: they leave the code
  alone;
* `SourceLine.map_unwritten_eq`: the lines of a text that is edited so are the same, but for what is
  written on them;
* `Program.read_alike_in_any_layout`: so are its statements, and the remarks about it.
-/

namespace Lathe

namespace SourceLine

variable {cs ds before rest : List Char} {c : Char}

/-! ## The code of a line -/

theorem codeOf_of_opens (h : opensComment c = true) : codeOf (c :: rest) = [] := by
  rw [codeOf, cutComment, List.takeWhile_cons_of_neg (by simp [h])]
  rfl

theorem codeOf_cons (h : opensComment c = false) :
    codeOf (c :: rest) = (Text.upper c).filter (fun d => !Text.isBlank d) ++ codeOf rest := by
  rw [codeOf, cutComment, List.takeWhile_cons_of_pos (by simp [h]), Text.upperText,
    List.flatMap_cons, List.filter_append]
  rfl

/-- The code before a place and the code behind it are found one without the other. -/
theorem codeOf_append (h : ∀ c ∈ before, opensComment c = false) :
    codeOf (before ++ rest) = codeOf before ++ codeOf rest := by
  induction before with
  | nil => rfl
  | cons c others ih =>
    obtain ⟨hc, hothers⟩ := List.forall_mem_cons.mp h
    rw [List.cons_append, codeOf_cons hc, codeOf_cons hc, ih hothers, List.append_assoc]

/-- No character of a class opens a comment if neither of the two that do is in it. -/
theorem opensComment_of_class {inClass : Char → Bool} (h : inClass c = true)
    (hparenthesis : inClass '(' = false) (hsemicolon : inClass ';' = false) :
    opensComment c = false := by
  rw [Bool.eq_false_iff]
  intro hopens
  have hc : c = '(' ∨ c = ';' := by simpa [opensComment] using hopens
  rcases hc with rfl | rfl
  · exact absurd h (Bool.eq_false_iff.mp hparenthesis)
  · exact absurd h (Bool.eq_false_iff.mp hsemicolon)

theorem codeOf_of_isBlank (h : Text.isBlank c = true) : codeOf (c :: rest) = codeOf rest := by
  have hopens : opensComment c = false := opensComment_of_class h (by decide) (by decide)
  rw [codeOf_cons hopens, Text.upper_of_isBlank h, List.filter_cons_of_neg (by simp [h])]
  rfl

/-- Blanks at the end of a line are not in its code, be they in its comment or not. -/
theorem codeOf_append_of_isBlank (h : ∀ c ∈ rest, Text.isBlank c = true) :
    codeOf (cs ++ rest) = codeOf cs := by
  induction cs with
  | nil =>
    -- no comment is open before the blanks, so they are left out one by one
    induction rest with
    | nil => rfl
    | cons c others ih =>
      obtain ⟨hc, hothers⟩ := List.forall_mem_cons.mp h
      exact (codeOf_of_isBlank hc).trans (ih hothers)
  | cons c others ih =>
    rw [List.cons_append]
    cases hc : opensComment c with
    | true => rw [codeOf_of_opens hc, codeOf_of_opens hc]
    | false => rw [codeOf_cons hc, codeOf_cons hc, ih]

/-- The carriage returns at the end of a line do not matter for its code. -/
theorem codeOf_dropReturns (cs : List Char) : codeOf (dropReturns cs) = codeOf cs := by
  have hcs : dropReturns cs ++ (cs.reverse.takeWhile (· == '\r')).reverse = cs := by
    rw [dropReturns, ← List.reverse_append, List.takeWhile_append_dropWhile, List.reverse_reverse]
  have hreturns : ∀ c ∈ (cs.reverse.takeWhile (· == '\r')).reverse, Text.isBlank c = true := by
    intro c hc
    have hreturn : (c == '\r') = true :=
      List.all_eq_true.mp List.all_takeWhile c (List.mem_reverse.mp hc)
    rw [beq_iff_eq.mp hreturn]
    decide
  calc
    codeOf (dropReturns cs) = codeOf (dropReturns cs ++ _) :=
      (codeOf_append_of_isBlank hreturns).symm
    _ = codeOf cs := by rw [hcs]

theorem ofChars_eq_ofCode (number : Nat) (cs : List Char) :
    ofChars number cs = ofCode number (String.ofList (dropReturns cs)) (codeOf cs) := by
  rw [← codeOf_dropReturns]
  rfl

/-! ## Edits -/

/-- A comment, or none: from the character that opens it to the end of the line. -/
def IsComment (cs : List Char) : Prop :=
  cs = [] ∨ ∃ c rest, cs = c :: rest ∧ opensComment c = true ∧ '\n' ∉ cs

/-- One edit of a line. What is before the place of the edit is code. -/
inductive Edit : List Char → List Char → Prop
  /-- A blank is put in. -/
  | blank {before rest : List Char} {c : Char} (hcode : ∀ d ∈ before, opensComment d = false)
      (hblank : Text.isBlank c = true) (hline : c ≠ '\n') :
      Edit (before ++ rest) (before ++ c :: rest)
  /-- A capital letter becomes a small one. -/
  | small {before rest : List Char} {c : Char} (hcode : ∀ d ∈ before, opensComment d = false)
      (hletter : Lexeme.isLetter c = true) :
      Edit (before ++ c :: rest) (before ++ c.toLower :: rest)
  /-- A comment is added, deleted or replaced. -/
  | comment {before comment other : List Char} (hcode : ∀ d ∈ before, opensComment d = false)
      (hcomment : IsComment comment) (hother : IsComment other) :
      Edit (before ++ comment) (before ++ other)

theorem IsComment.codeOf_eq (h : IsComment cs) : codeOf cs = [] := by
  rcases h with rfl | ⟨c, rest, rfl, hc, -⟩
  · rfl
  · exact codeOf_of_opens hc

theorem codeOf_toLower (h : Lexeme.isLetter c = true) :
    codeOf (c.toLower :: rest) = codeOf (c :: rest) := by
  -- there are twenty-six letters to look at
  have hletters : ∀ n ∈ List.range' 65 26, Text.upper (Char.ofNat n).toLower = [Char.ofNat n] ∧
      opensComment (Char.ofNat n).toLower = false ∧ opensComment (Char.ofNat n) = false := by
    decide +kernel
  obtain ⟨run, hrun, hfirst, hlast⟩ := Text.isLetter_iff.mp h
  obtain rfl := List.mem_singleton.mp hrun
  have hc := hletters c.toNat (List.mem_range'_1.mpr ⟨hfirst, Nat.lt_succ_of_le hlast⟩)
  rw [Char.ofNat_toNat] at hc
  rw [codeOf_cons hc.2.1, codeOf_cons hc.2.2, hc.1, Text.upper_of_isLetter h]

/-- The edits leave the code alone. -/
theorem Edit.codeOf_eq (h : Edit cs ds) : codeOf ds = codeOf cs := by
  cases h with
  | blank hcode hblank _ =>
    rw [codeOf_append hcode, codeOf_append hcode, codeOf_of_isBlank hblank]
  | small hcode hletter => rw [codeOf_append hcode, codeOf_append hcode, codeOf_toLower hletter]
  | comment hcode hcomment hother =>
    rw [codeOf_append hcode, codeOf_append hcode, hcomment.codeOf_eq, hother.codeOf_eq]

theorem codeOf_eq_of_edits (h : Relation.EqvGen Edit cs ds) : codeOf ds = codeOf cs := by
  induction h with
  | rel _ _ hedit => exact hedit.codeOf_eq
  | refl => rfl
  | symm _ _ _ ih => exact ih.symm
  | trans _ _ _ _ _ hfirst hsecond => exact hsecond.trans hfirst

/-! ## The lines of a text -/

/-- The line without what is written on it. -/
def unwritten (line : SourceLine) : SourceLine :=
  { line with raw := "" }

theorem unwritten_ofChars_eq (number : Nat) (h : codeOf ds = codeOf cs) :
    (ofChars number ds).unwritten = (ofChars number cs).unwritten := by
  rw [ofChars_eq_ofCode, ofChars_eq_ofCode, h]
  rfl

/-- The lines of two texts are the same, but for what is written on them, if they have the same
code. -/
theorem map_unwritten_eq {lines others : List (List Char)} (first : Nat)
    (h : List.Forall₂ (fun cs ds => codeOf ds = codeOf cs) lines others) :
    ((others.zipIdx first).map fun p => (ofChars p.2 p.1).unwritten) =
      (lines.zipIdx first).map fun p => (ofChars p.2 p.1).unwritten := by
  induction h generalizing first with
  | nil => rfl
  | cons hcode _ ih =>
    rw [List.zipIdx_cons, List.zipIdx_cons, List.map_cons, List.map_cons, ih,
      unwritten_ofChars_eq first hcode]

end SourceLine

/-! ## Statements and remarks -/

/-- The statement without what is written on its line. -/
def Statement.unwritten (s : Statement) : Statement :=
  { s with raw := "" }

namespace Program

variable {text other : String}

/-- Two texts differ in layout only: each line of the one is made from that of the other by edits
that put blanks into its code or take them out, change the case of its letters, or change its
comment. -/
def SameButLayout (text other : String) : Prop :=
  List.Forall₂ (Relation.EqvGen SourceLine.Edit) (text.toList.splitOn '\n')
    (other.toList.splitOn '\n')

theorem SameButLayout.map_unwritten_ofText (h : SameButLayout text other) :
    (SourceLine.ofText other).map SourceLine.unwritten =
      (SourceLine.ofText text).map SourceLine.unwritten := by
  have hcodes := List.Forall₂.imp (fun _ _ => SourceLine.codeOf_eq_of_edits) h
  simp only [SourceLine.ofText, SourceLine.ofTextFrom, List.map_map]
  exact SourceLine.map_unwritten_eq 1 hcodes

theorem map_unwritten_parse (text : String) :
    (parse text).map (List.map Statement.unwritten) =
      readLines ((SourceLine.ofText text).map SourceLine.unwritten) :=
  (readLines_map (g := SourceLine.unwritten) (fun _ => readLine_congr (fun _ => rfl) rfl) _).symm

theorem warnings_eq_flatMap_unwritten (text : String) :
    warnings text = ((SourceLine.ofText text).map SourceLine.unwritten).flatMap lineWarnings := by
  rw [List.flatMap_map]
  rfl

/-- Texts that differ in layout only are read alike: the statements are the same, but for what is
written on their lines, the remarks are the same, and either text can be read if the other can. -/
theorem read_alike_in_any_layout (h : SameButLayout text other) :
    (parse other).map (List.map Statement.unwritten) =
      (parse text).map (List.map Statement.unwritten) ∧
    warnings other = warnings text ∧
    ((∃ fault, parse other = .error fault) ↔ ∃ fault, parse text = .error fault) := by
  have hlines := h.map_unwritten_ofText
  have hparse : (parse other).map (List.map Statement.unwritten) =
      (parse text).map (List.map Statement.unwritten) := by
    rw [map_unwritten_parse, map_unwritten_parse, hlines]
  refine ⟨hparse, ?_, ?_⟩
  · rw [warnings_eq_flatMap_unwritten, warnings_eq_flatMap_unwritten, hlines]
  · -- leaving out what is written keeps the faults
    refine exists_congr fun fault => ?_
    rw [← Fault.map_eq_error_iff, hparse, Fault.map_eq_error_iff]

/-- A cut with a comment, and a coolant command with a blank in it. -/
def crampedText : String :=
  String.ofList ['G', '1', 'X', '2', '5', '(', 'a', ')', '\n', 'M', ' ', '8']

/-- The same cut with a small letter, blanks, one of them within the number, and another comment;
the coolant command without the blank. -/
def spacedText : String :=
  String.ofList ['g', '1', ' ', 'X', '2', ' ', '5', ';', 'b', '\n', 'M', '8']

theorem sameButLayout_spacedText : SameButLayout crampedText spacedText := by
  have hsmall : SourceLine.Edit ['G', '1', 'X', '2', '5', '(', 'a', ')']
      ['g', '1', 'X', '2', '5', '(', 'a', ')'] :=
    @SourceLine.Edit.small [] ['1', 'X', '2', '5', '(', 'a', ')'] 'G' nofun (by decide)
  have hbefore : SourceLine.Edit ['g', '1', 'X', '2', '5', '(', 'a', ')']
      ['g', '1', ' ', 'X', '2', '5', '(', 'a', ')'] :=
    @SourceLine.Edit.blank ['g', '1'] ['X', '2', '5', '(', 'a', ')'] ' '
      (by simp [SourceLine.opensComment]) (by decide) (by decide)
  have hwithin : SourceLine.Edit ['g', '1', ' ', 'X', '2', '5', '(', 'a', ')']
      ['g', '1', ' ', 'X', '2', ' ', '5', '(', 'a', ')'] :=
    @SourceLine.Edit.blank ['g', '1', ' ', 'X', '2'] ['5', '(', 'a', ')'] ' '
      (by simp [SourceLine.opensComment]) (by decide) (by decide)
  have hcomment : SourceLine.Edit ['g', '1', ' ', 'X', '2', ' ', '5', '(', 'a', ')']
      ['g', '1', ' ', 'X', '2', ' ', '5', ';', 'b'] :=
    @SourceLine.Edit.comment ['g', '1', ' ', 'X', '2', ' ', '5'] ['(', 'a', ')'] [';', 'b']
      (by simp [SourceLine.opensComment]) (.inr ⟨_, _, rfl, by decide, by decide⟩)
      (.inr ⟨_, _, rfl, by decide, by decide⟩)
  have hcoolant : SourceLine.Edit ['M', '8'] ['M', ' ', '8'] :=
    @SourceLine.Edit.blank ['M'] ['8'] ' ' (by simp [SourceLine.opensComment]) (by decide)
      (by decide)
  have hcut := (Relation.EqvGen.rel _ _ hsmall).trans _ _ _ <|
    (Relation.EqvGen.rel _ _ hbefore).trans _ _ _ <|
    (Relation.EqvGen.rel _ _ hwithin).trans _ _ _ (.rel _ _ hcomment)
  unfold SameButLayout crampedText spacedText
  rw [String.toList_ofList, String.toList_ofList]
  exact .cons hcut (.cons (.symm _ _ (.rel _ _ hcoolant)) .nil)

theorem read_spacedText_as_crampedText :
    SameButLayout crampedText spacedText ∧
    (parse spacedText).map (List.map Statement.unwritten) =
      (parse crampedText).map (List.map Statement.unwritten) ∧
    warnings spacedText = warnings crampedText :=
  have halike := read_alike_in_any_layout sameButLayout_spacedText
  ⟨sameButLayout_spacedText, halike.1, halike.2.1⟩

end Program

end Lathe
