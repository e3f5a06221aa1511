import Lathe.Proofs.Program.Order
import Lathe.Proofs.Program.Reading
import Mathlib.Data.List.Forall2

/-!
# Lines and their statements

The words of a line are cut before every command word but the first, and each group makes one
statement: its command is the command word, if there is one, and its parameters are the other words.
Of a letter that is repeated, the first place and the last number count.

* `Program.Cut`: the groups, and `Program.Cut.unique`: there is only one way to cut;
* `Program.Makes`: the statement that a group makes;
* `Program.exists_cut_of_readWords`: reading the words from left to right cuts them so;
* `Program.split_before_commands`: what the words of a line make, and when they make anything.
-/

namespace Lathe

/-! ## Words -/

namespace Word

/-- The word is a command word. -/
def isCommand (w : Word) : Bool :=
  decide (w.letter = 'G' ∨ w.letter = 'M' ∨ w.letter = 'T')

/-- The number that a parameter word gives: its own, or none that is a number if it has none. -/
def Gives (w : Word) (x : Float) : Prop :=
  w.value = some x ∨ w.value = none ∧ x.isNaN = true

/-- The number of the word, if it has one, is a real number. -/
def Finite (w : Word) : Prop :=
  ∀ x, w.value = some x → x.isInf = false ∧ x.isNaN = false

variable {w : Word}

theorem isCommand_eq_false_iff : w.isCommand = false ↔ Kind.ofLetter? w.letter = none := by
  rw [Kind.ofLetter?_eq_none_iff, isCommand, decide_eq_false_iff_not]

theorem isCommand_of_ofLetter? {kind : Kind} (h : Kind.ofLetter? w.letter = some kind) :
    w.isCommand = true := by
  rw [← Bool.not_eq_false, isCommand_eq_false_iff, h]
  nofun

theorem gives_number (w : Word) : w.Gives (w.value.getD (0.0 / 0.0)) := by
  cases h : w.value with
  | none => exact .inr ⟨h, by decide +kernel⟩
  | some x => exact .inl h

/-- Real numbers are codes, and no others. -/
theorem exists_code_iff : (∃ code, w.code = .ok code) ↔ w.Finite := by
  unfold code Finite
  cases w.value with
  | none => simp
  | some x =>
    have htruncate (fault : Fault) := @truncate_eq_error_iff x fault
    cases hread : truncate x with
    | error fault =>
      have hnot : ¬(x.isInf = false ∧ x.isNaN = false) := by
        rintro ⟨hinf, hnan⟩
        rcases (htruncate fault).mp hread with ⟨-, hinf'⟩ | ⟨-, hnan'⟩
        · cases hinf.symm.trans hinf'
        · cases hnan.symm.trans hnan'
      simpa [Code.ofNumber, hread, Except.map] using hnot
    | ok n =>
      have hinf : x.isInf = false := Bool.eq_false_iff.mpr <|
        Fault.not_of_eq_ok hread fun h => (htruncate _).mpr (.inl ⟨rfl, h⟩)
      have hnan : x.isNaN = false := Bool.eq_false_iff.mpr <|
        Fault.not_of_eq_ok hread fun h => (htruncate _).mpr (.inr ⟨rfl, h⟩)
      have hreal : x.isInf = false ∧ x.isNaN = false := ⟨hinf, hnan⟩
      simpa [Code.ofNumber, hread, Except.map] using hreal

end Word

theorem Kind.letter_of_ofLetter? {letter : Char} {kind : Kind} (h : ofLetter? letter = some kind) :
    kind.letter = letter := by
  unfold ofLetter? at h
  repeat' split at h
  all_goals simp_all
  all_goals subst h; rfl

/-! ## Groups of words -/

namespace Program

variable {line : SourceLine} {words seen group : List Word} {groups others : List (List Word)}
  {draft : Draft} {statements : List Statement} {w : Word}

/-- The words of a group that are no command words. -/
def parametersOf (group : List Word) : List Word :=
  group.filter fun w => !w.isCommand

/-- The words are cut before every command word but the first. -/
structure Cut (words : List Word) (groups : List (List Word)) : Prop where
  /-- No word is lost or moved. -/
  flatten_eq : groups.flatten = words
  /-- Every group but the first begins with a command word. -/
  begins : ∀ group ∈ groups.tail, ∃ w rest, group = w :: rest ∧ w.isCommand = true
  /-- Every group has one command word, unless there is none at all. -/
  count : ∀ group ∈ groups,
    group.countP Word.isCommand = min 1 (words.countP Word.isCommand)

/-- A statement has the command of a command word, or no command. -/
def HasCommand (s : Statement) : Option Word → Prop
  | none => s.kind = .preparatory ∧ s.code = none ∧ s.codeText = ""
  | some w => s.kind.letter = w.letter ∧ w.code = .ok s.code ∧ s.codeText = w.codeText

/-- A group of words of a line makes a statement. -/
structure Makes (line : SourceLine) (group : List Word) (s : Statement) : Prop where
  /-- The command is that of the command word. -/
  command : HasCommand s (group.find? Word.isCommand)
  /-- The letters are in the order in which they come first. -/
  letters : s.params.map Prod.fst = ((parametersOf group).map Word.letter).eraseDups
  /-- Of each letter, the number is the one that comes last. -/
  number : ∀ letter, Option.Rel Word.Gives
    ((parametersOf group).reverse.find? fun w => w.letter == letter) (s.params.lookup letter)
  /-- The statement is on the line. -/
  place : s.line = line.number ∧ s.raw = line.raw

namespace Cut

theorem countP_eq_one (h : Cut words (group :: groups)) {later : List Word}
    (hlater : later ∈ groups) : later.countP Word.isCommand = 1 := by
  obtain ⟨w, rest, rfl, hw⟩ := h.begins later hlater
  have hcount := h.count _ (List.mem_cons_of_mem group hlater)
  rw [List.countP_cons_of_pos hw] at hcount ⊢
  omega

/-- The groups behind the first are cut in the same way. -/
theorem tail (h : Cut words (group :: groups)) : Cut groups.flatten groups where
  flatten_eq := rfl
  begins later hlater := h.begins later (List.mem_of_mem_tail hlater)
  count later hlater := by
    have hone := h.countP_eq_one hlater
    have hle : later.countP Word.isCommand ≤ groups.flatten.countP Word.isCommand :=
      (List.sublist_flatten_of_mem hlater).countP_le
    omega

/-- One cut does not come behind another. -/
theorem eq_nil_of_append {more : List Word} (h : Cut words (group :: groups))
    (hother : Cut words ((group ++ more) :: others)) : more = [] := by
  cases more with
  | nil => rfl
  | cons w rest =>
    -- otherwise the word behind the first cut is a command word, the second one of its group
    have hflatten : groups.flatten = w :: rest ++ others.flatten := by
      have heq := h.flatten_eq.trans hother.flatten_eq.symm
      simpa using heq
    cases groups with
    | nil => simp at hflatten
    | cons later groups =>
      obtain ⟨v, behind, rfl, hv⟩ := h.begins later List.mem_cons_self
      obtain rfl : v = w := by simpa using congrArg List.head? hflatten
      have hfirst := h.count _ List.mem_cons_self
      have hboth := hother.count _ List.mem_cons_self
      have hone := h.countP_eq_one List.mem_cons_self
      have hall := h.count _ (List.mem_cons_of_mem _ List.mem_cons_self)
      rw [List.countP_append, List.countP_cons_of_pos hv] at hboth
      omega

/-- There is only one way to cut words. -/
theorem unique (h : Cut words groups) (hother : Cut words others) (hwords : words ≠ []) :
    others = groups := by
  induction groups generalizing words others with
  | nil => exact absurd h.flatten_eq.symm hwords
  | cons group groups ih =>
    cases others with
    | nil => exact absurd hother.flatten_eq.symm hwords
    | cons other others =>
      have hflatten : group ++ groups.flatten = other ++ others.flatten :=
        h.flatten_eq.trans hother.flatten_eq.symm
      -- the first groups end at the same place, for neither cut comes behind the other
      obtain rfl : other = group := by
        rcases List.append_eq_append_iff.mp hflatten with ⟨more, rfl, -⟩ | ⟨more, rfl, -⟩
        · rw [h.eq_nil_of_append hother, List.append_nil]
        · rw [hother.eq_nil_of_append h, List.append_nil]
      have htails : groups.flatten = others.flatten := List.append_cancel_left hflatten
      congr 1
      cases groups with
      | nil =>
        refine List.eq_nil_iff_forall_not_mem.mpr fun later hlater => ?_
        obtain ⟨w, rest, rfl, -⟩ := hother.begins later hlater
        simpa using List.flatten_eq_nil_iff.mp htails.symm _ hlater
      | cons later groups =>
        obtain ⟨w, rest, rfl, -⟩ := h.begins later List.mem_cons_self
        exact ih h.tail (htails ▸ hother.tail) (by simp)

theorem countP_flatten_eq {n : Nat} (h : ∀ group ∈ groups, group.countP Word.isCommand = n) :
    groups.flatten.countP Word.isCommand = groups.length * n := by
  induction groups with
  | nil => simp
  | cons group groups ih =>
    obtain ⟨hgroup, hgroups⟩ := List.forall_mem_cons.mp h
    rw [List.flatten_cons, List.countP_append, hgroup, ih hgroups, List.length_cons, Nat.succ_mul,
      Nat.add_comm]

/-- There is one group for each command word, and one at least. -/
theorem length_eq (h : Cut words groups) (hwords : words ≠ []) :
    groups.length = max 1 (words.countP Word.isCommand) := by
  have hcount := countP_flatten_eq h.count
  rw [h.flatten_eq] at hcount
  rcases Nat.eq_zero_or_pos (words.countP Word.isCommand) with hzero | hpos
  · -- no group but the first can begin
    cases groups with
    | nil => exact absurd h.flatten_eq.symm hwords
    | cons group groups =>
      cases groups with
      | nil => rw [hzero]; rfl
      | cons later groups =>
        have hone := h.countP_eq_one List.mem_cons_self
        have hnone := h.count later (List.mem_cons_of_mem group List.mem_cons_self)
        omega
  · rw [Nat.min_eq_left hpos, Nat.mul_one] at hcount
    omega

/-- A group with a command word may be put before groups of which the first begins with one. -/
theorem cons {first : List Word} (h : Cut words (group :: groups)) (hw : w.isCommand = true)
    (hgroup : group = w :: first) (hseen : seen.countP Word.isCommand = 1) :
    Cut (seen ++ words) (seen :: group :: groups) where
  flatten_eq := by rw [List.flatten_cons, h.flatten_eq]
  begins := List.forall_mem_cons.mpr ⟨⟨w, first, hgroup, hw⟩, h.begins⟩
  count := by
    rw [List.countP_append, hseen, Nat.min_eq_left (Nat.le_add_right 1 _)]
    have hone : group.countP Word.isCommand = 1 := by
      have hcount := h.count group List.mem_cons_self
      rw [hgroup, List.countP_cons_of_pos hw] at hcount ⊢
      omega
    simp only [List.forall_mem_cons]
    exact ⟨hseen, hone, fun later hlater => h.countP_eq_one hlater⟩

end Cut

/-! ## Drafts -/

/-- A draft holds the words of a group that have been read so far. -/
structure Drafted (line : SourceLine) (seen : List Word) (draft : Draft) : Prop where
  /-- Completed now, it is what they make. -/
  makes : Makes line seen (draft.complete line.number line.raw)
  /-- It has a command if one of them is a command word. -/
  command : draft.command.isSome = seen.any Word.isCommand
  /-- Only one of them is. -/
  count : seen.countP Word.isCommand ≤ 1

theorem drafted_empty (line : SourceLine) : Drafted line [] .empty where
  makes :=
    { command := ⟨rfl, rfl, rfl⟩
      letters := rfl
      number := fun _ => .none
      place := ⟨rfl, rfl⟩ }
  command := rfl
  count := Nat.zero_le 1

theorem eraseDups_append_singleton (letters : List Char) (letter : Char) :
    (letters ++ [letter]).eraseDups =
      if letter ∈ letters.eraseDups then letters.eraseDups else letters.eraseDups ++ [letter] := by
  rw [List.eraseDups_append]
  by_cases hmem : letter ∈ letters
  · simp [List.removeAll, hmem]
  · simp [List.removeAll, hmem, List.eraseDups_cons]

theorem parametersOf_append_of_command (hw : w.isCommand = true) :
    parametersOf (seen ++ [w]) = parametersOf seen := by
  simp [parametersOf, hw]

theorem parametersOf_append_of_parameter (hw : w.isCommand = false) :
    parametersOf (seen ++ [w]) = parametersOf seen ++ [w] := by
  simp [parametersOf, hw]

/-- A parameter word that is read joins the draft. -/
theorem Drafted.addParam (h : Drafted line seen draft) (hw : w.isCommand = false) :
    Drafted line (seen ++ [w]) (draft.addParam w) where
  makes :=
    { command := by
        have hfind : (seen ++ [w]).find? Word.isCommand = seen.find? Word.isCommand := by
          simp [hw]
        rw [hfind]
        exact h.makes.command
      letters := by
        have hletters : draft.params.map Prod.fst =
            ((parametersOf seen).map Word.letter).eraseDups := h.makes.letters
        change (draft.params.put w.letter _).map Prod.fst = _
        rw [parametersOf_append_of_parameter hw, List.map_append, List.map_singleton,
          eraseDups_append_singleton, Association.map_fst_put, hletters]
      number := by
        intro letter
        change Option.Rel Word.Gives _ ((draft.params.put w.letter _).lookup letter)
        rw [parametersOf_append_of_parameter hw, List.reverse_append, List.reverse_singleton,
          List.singleton_append, Association.lookup_put]
        -- from the end, the new word is the first to be found
        by_cases hletter : letter = w.letter
        · rw [if_pos hletter, List.find?_cons_of_pos (by simp [hletter])]
          exact .some w.gives_number
        · rw [if_neg hletter, List.find?_cons_of_neg (by simpa using Ne.symm hletter)]
          exact h.makes.number letter
      place := ⟨rfl, rfl⟩ }
  command := by
    rw [List.any_append, List.any_cons, List.any_nil, hw, Bool.or_false, Bool.or_false]
    exact h.command
  count := by
    rw [List.countP_append, List.countP_singleton, if_neg (by simp [hw])]
    exact h.count

/-- A command word that is read becomes the command of a draft that has none. -/
theorem Drafted.addCommand (h : Drafted line seen draft) {kind : Kind} {code : Option Code}
    (hkind : Kind.ofLetter? w.letter = some kind) (hcode : w.code = .ok code)
    (hdraft : draft.command.isSome = false) :
    Drafted line (seen ++ [w]) { draft with command := some (kind, code, w.codeText) } := by
  have hw : w.isCommand = true := Word.isCommand_of_ofLetter? hkind
  have hnone : seen.any Word.isCommand = false := h.command.symm.trans hdraft
  have hfind : seen.find? Word.isCommand = none := by
    rw [List.find?_eq_none]
    exact List.any_eq_false.mp hnone
  refine ⟨⟨?_, ?_, ?_, ⟨rfl, rfl⟩⟩, ?_, ?_⟩
  · rw [List.find?_append, hfind, Option.none_or, List.find?_cons_of_pos hw]
    exact ⟨Kind.letter_of_ofLetter? hkind, hcode, rfl⟩
  · rw [parametersOf_append_of_command hw]
    exact h.makes.letters
  · rw [parametersOf_append_of_command hw]
    exact h.makes.number
  · simp [hw]
  · have hzero : seen.countP Word.isCommand = 0 :=
      List.countP_eq_zero.mpr (List.any_eq_false.mp hnone)
    rw [List.countP_append, hzero, List.countP_singleton, if_pos hw]

/-! ## Reading from left to right -/

/-- The words that are read behind those of a draft make the statements of a cut whose first group
begins with the draft. -/
theorem exists_cut_of_readWords (hdraft : Drafted line seen draft)
    (h : readWords line.number line.raw draft words = .ok statements) :
    ∃ first later, Cut (seen ++ words) ((seen ++ first) :: later) ∧
      List.Forall₂ (Makes line) ((seen ++ first) :: later) statements := by
  induction words generalizing seen draft statements with
  | nil =>
    cases h
    refine ⟨[], [], ⟨by simp, nofun, ?_⟩, .cons ?_ .nil⟩
    · have hcount := hdraft.count
      simp only [List.append_nil, List.forall_mem_singleton]
      omega
    · rw [List.append_nil]
      exact hdraft.makes
  | cons w rest ih =>
    rw [readWords] at h
    split at h
    next hkind =>
      obtain ⟨first, later, hcut, hmakes⟩ :=
        ih (hdraft.addParam (Word.isCommand_eq_false_iff.mpr hkind)) h
      exact ⟨w :: first, later, by simpa using hcut, by simpa using hmakes⟩
    next kind hkind =>
      split at h
      · cases h
      next code hcode =>
        dsimp only at h
        split at h
        next hcommand =>
          -- the draft is complete, and the word begins the next group
          obtain ⟨others, hothers, rfl⟩ := exists_of_map_eq_ok h
          have hnext := (drafted_empty line).addCommand hkind hcode rfl
          obtain ⟨first, later, hcut, hmakes⟩ := ih hnext hothers
          have hseen : seen.countP Word.isCommand = 1 := by
            have hany : seen.any Word.isCommand = true := hdraft.command.symm.trans hcommand
            exact Nat.le_antisymm hdraft.count (List.countP_pos_iff.mpr (List.any_eq_true.mp hany))
          refine ⟨[], ([w] ++ first) :: later, ?_, ?_⟩
          · rw [List.append_nil]
            exact hcut.cons (Word.isCommand_of_ofLetter? hkind) rfl hseen
          · rw [List.append_nil]
            exact .cons hdraft.makes hmakes
        next hcommand =>
          have hnext := hdraft.addCommand hkind hcode (Bool.eq_false_iff.mpr hcommand)
          obtain ⟨first, later, hcut, hmakes⟩ := ih hnext h
          exact ⟨w :: first, later, by simpa using hcut, by simpa using hmakes⟩

/-- Words make statements exactly if the numbers of the command words among them are real. -/
theorem exists_readWords_iff {number : Nat} {raw : String} :
    (∃ statements, readWords number raw draft words = .ok statements) ↔
      ∀ w ∈ words, w.isCommand = true → w.Finite := by
  induction words generalizing draft with
  | nil => simp [readWords]
  | cons w rest ih =>
    -- the draft decides where a statement ends, not whether there is one
    rw [List.forall_mem_cons, readWords]
    cases hkind : Kind.ofLetter? w.letter with
    | none => simpa [Word.isCommand_eq_false_iff.mpr hkind] using ih
    | some kind =>
      have hw : w.isCommand = true := Word.isCommand_of_ofLetter? hkind
      rw [← Word.exists_code_iff]
      cases w.code with
      | error fault => simp [hw]
      | ok code =>
        have hmap (answer : Except Fault (List Statement)) (s : Statement) :
            (∃ statements, answer.map (s :: ·) = .ok statements) ↔
              ∃ statements, answer = .ok statements := by
          cases answer <;> simp [Except.map]
        dsimp only
        split
        · rw [hmap, ih]
          simp
        · rw [ih]
          simp

theorem Makes.not_command {s : Statement} (h : Makes line group s) {letter : Char}
    (hletter : letter ∈ s.params.map Prod.fst) : letter ≠ 'G' ∧ letter ≠ 'M' ∧ letter ≠ 'T' := by
  rw [h.letters, List.mem_eraseDups] at hletter
  obtain ⟨w, hw, rfl⟩ := List.mem_map.mp hletter
  have hcommand := (List.mem_filter.mp hw).2
  simpa [Word.isCommand] using hcommand

theorem exists_makes_of_mem (h : List.Forall₂ (Makes line) groups statements) {s : Statement}
    (hs : s ∈ statements) : ∃ group ∈ groups, Makes line group s := by
  induction h with
  | nil => cases hs
  | @cons group first groups others hfirst _ ih =>
    rcases List.mem_cons.mp hs with rfl | hs
    · exact ⟨group, List.mem_cons_self, hfirst⟩
    · obtain ⟨later, hlater, hmakes⟩ := ih hs
      exact ⟨later, List.mem_cons_of_mem group hlater, hmakes⟩

/-- The words of a line, if there are any, make statements exactly if the numbers of its command
words are real. There are then as many as there are command words, but one at least: those that the
groups make into which the words are cut before every command word but the first. No parameter has
the letter of a command. -/
theorem split_before_commands (line : SourceLine) (hwords : line.words ≠ []) :
    ((∃ statements, readLine line = .ok statements) ↔
      ∀ w ∈ line.words, w.isCommand = true → w.Finite) ∧
    ∀ statements, readLine line = .ok statements →
      statements.length = max 1 (line.words.countP Word.isCommand) ∧
      (∃ groups, Cut line.words groups ∧ (∀ others, Cut line.words others → others = groups) ∧
        List.Forall₂ (Makes line) groups statements) ∧
      ∀ s ∈ statements, ∀ letter ∈ s.params.map Prod.fst,
        letter ≠ 'G' ∧ letter ≠ 'M' ∧ letter ≠ 'T' := by
  have hread : readLine line = readWords line.number line.raw .empty line.words :=
    if_neg (by simpa using hwords)
  rw [hread]
  refine ⟨exists_readWords_iff, fun statements h => ?_⟩
  obtain ⟨first, later, hcut, hmakes⟩ := exists_cut_of_readWords (drafted_empty line) h
  rw [List.nil_append, List.nil_append] at hcut
  rw [List.nil_append] at hmakes
  refine ⟨?_, ⟨first :: later, hcut, fun others hothers => hcut.unique hothers hwords, hmakes⟩, ?_⟩
  · rw [← hmakes.length_eq, hcut.length_eq hwords]
  · intro s hs letter hletter
    obtain ⟨group, -, hgroup⟩ := exists_makes_of_mem hmakes hs
    exact hgroup.not_command hletter

/-- Parameters before the first command, a letter that is repeated, a bare letter, and a bare
command word at the end. -/
def mixedLine : SourceLine := SourceLine.ofChars 7 "X1 Z2 G1 X3 Y M3 S500 X5 T".toList

def mixedStatements : List Statement := [
  { kind := .preparatory, code := some (.whole 1),
    params := [('X', 3.0), ('Z', 2.0), ('Y', 0.0 / 0.0)], line := 7, raw := mixedLine.raw,
    codeText := "1" },
  { kind := .miscellaneous, code := some (.whole 3), params := [('S', 500.0), ('X', 5.0)],
    line := 7, raw := mixedLine.raw, codeText := "3" },
  { kind := .tool, code := none, params := [], line := 7, raw := mixedLine.raw, codeText := "" }]

theorem mixedLine_split :
    mixedLine.words ≠ [] ∧ readLine mixedLine = .ok mixedStatements ∧
    mixedStatements.length = max 1 (mixedLine.words.countP Word.isCommand) ∧
    ∃ groups, Cut mixedLine.words groups ∧
      List.Forall₂ (Makes mixedLine) groups mixedStatements := by
  have hwords : mixedLine.words ≠ [] := by decide +kernel
  have hread : readLine mixedLine = .ok mixedStatements := by decide +kernel
  obtain ⟨hlength, ⟨groups, hcut, -, hmakes⟩, -⟩ :=
    (split_before_commands mixedLine hwords).2 mixedStatements hread
  exact ⟨hwords, hread, hlength, groups, hcut, hmakes⟩

/-- A command word whose number is beyond the largest one. -/
def endlessLine : SourceLine := SourceLine.ofChars 1 ('G' :: List.replicate 309 '9')

/-- It makes no statement, although it is a command word. -/
theorem endlessLine_makes_none :
    endlessLine.words.countP Word.isCommand = 1 ∧
    ¬∃ statements, readLine endlessLine = .ok statements ∧
      statements.length = max 1 (endlessLine.words.countP Word.isCommand) := by
  have hread : readLine endlessLine = .error (.notReal .infinite) := by decide +kernel
  refine ⟨by decide +kernel, ?_⟩
  rintro ⟨statements, hstatements, -⟩
  cases hread.symm.trans hstatements

end Program

end Lathe
