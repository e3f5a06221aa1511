import Lathe.Program.Parse
import Lathe.Proofs.Program.Numeral
import Lathe.Proofs.Text.Class
import Mathlib.Data.List.Pairwise

/-!
# Words and stray characters tile the code

The code of a line is divided without gap and overlap. Every letter begins a word, the word goes on
with the longest numeral behind the letter, and what is in no word is stray.

* `Lexeme.tiles_scan`: each lexeme begins where the one before it ends, from the first character of
  the code to its last;
* `Lexeme.standsIn_of_mem`: what a lexeme says is what stands at its place;
* `Lexeme.letters_eq`: the letters of the words are the letters of the code;
* `Lexeme.strays_eq`: the stray characters are those that no word covers;
* `SourceLine.words_and_warnings_tile`: all of this for the words of a line and the remarks about
  it.
-/

namespace Lathe

/-! ## Places -/

/-- The word covers a place of the code. -/
def Word.covers (w : Word) (place : Nat) : Bool :=
  decide (w.start ≤ place) && decide (place < w.stop)

theorem Word.covers_iff {w : Word} {place : Nat} :
    w.covers place = true ↔ w.start ≤ place ∧ place < w.stop := by
  simp [covers]

/-- The word is read from the code: at its start stands its letter, and from there to its stop the
longest numeral behind the letter. -/
structure Word.StandsIn (w : Word) (code : List Char) : Prop where
  /-- A letter begins the word. -/
  isLetter : Lexeme.isLetter w.letter = true
  /-- It stands at the start. -/
  letter : code[w.start]? = some w.letter
  /-- The numeral is all that stands between the letter and the stop. -/
  text : w.text.toList = code.extract (w.start + 1) w.stop
  /-- There is no longer one. -/
  longest : Numeral.Longest w.text.toList (code.drop (w.start + 1))
  /-- The letter is covered. -/
  start_lt : w.start < w.stop
  /-- The word ends within the code. -/
  stop_le : w.stop ≤ code.length

namespace Lexeme

/-- The place of the first character. -/
def start : Lexeme → Nat
  | .word w => w.start
  | .stray _ place => place

/-- The place after the last character. -/
def stop : Lexeme → Nat
  | .word w => w.stop
  | .stray _ place => place + 1

/-- The lexeme covers a place of the code. -/
def Covers (lexeme : Lexeme) (place : Nat) : Prop :=
  lexeme.start ≤ place ∧ place < lexeme.stop

/-- The lexeme is read from the code. -/
def StandsIn (code : List Char) : Lexeme → Prop
  | .word w => w.StandsIn code
  | .stray c place => code[place]? = some c ∧ isLetter c = false

/-- The lexemes stand one behind the other, without a gap, from one place to another. -/
def Tiles : Nat → List Lexeme → Nat → Prop
  | first, [], last => first = last
  | first, lexeme :: rest, last =>
    lexeme.start = first ∧ lexeme.start < lexeme.stop ∧ Tiles lexeme.stop rest last

variable {line place first last : Nat} {cs code : List Char} {lexeme : Lexeme}
  {lexemes : List Lexeme}

namespace Tiles

theorem le (h : Tiles first lexemes last) : first ≤ last := by
  induction lexemes generalizing first with
  | nil => exact Nat.le_of_eq h
  | cons lexeme rest ih =>
    obtain ⟨rfl, hlt, hrest⟩ := h
    exact hlt.le.trans (ih hrest)

theorem bounds (h : Tiles first lexemes last) (hmem : lexeme ∈ lexemes) :
    first ≤ lexeme.start ∧ lexeme.start < lexeme.stop ∧ lexeme.stop ≤ last := by
  induction lexemes generalizing first with
  | nil => cases hmem
  | cons next rest ih =>
    obtain ⟨rfl, hlt, hrest⟩ := h
    rcases List.mem_cons.mp hmem with rfl | hmem
    · exact ⟨Nat.le_refl _, hlt, hrest.le⟩
    · obtain ⟨hstart, hbounds⟩ := ih hrest hmem
      exact ⟨hlt.le.trans hstart, hbounds⟩

theorem pairwise (h : Tiles first lexemes last) :
    lexemes.Pairwise fun one other => one.stop ≤ other.start := by
  induction lexemes generalizing first with
  | nil => exact .nil
  | cons lexeme rest ih =>
    obtain ⟨rfl, -, hrest⟩ := h
    exact .cons (fun other hother => (hrest.bounds hother).1) (ih hrest)

theorem exists_covers (h : Tiles first lexemes last) (hfirst : first ≤ place)
    (hlast : place < last) : ∃ lexeme ∈ lexemes, lexeme.Covers place := by
  induction lexemes generalizing first with
  | nil => exact absurd (h ▸ hfirst) (Nat.not_le_of_lt hlast)
  | cons lexeme rest ih =>
    obtain ⟨rfl, hlt, hrest⟩ := h
    rcases Nat.lt_or_ge place lexeme.stop with hstop | hstop
    · exact ⟨lexeme, List.mem_cons_self, hfirst, hstop⟩
    · obtain ⟨other, hother, hcovers⟩ := ih hrest hstop
      exact ⟨other, List.mem_cons_of_mem lexeme hother, hcovers⟩

/-- Two lexemes that cover the same place are the same. -/
theorem eq_of_covers (h : Tiles first lexemes last) {other : Lexeme} (hmem : lexeme ∈ lexemes)
    (hother : other ∈ lexemes) (hcovers : lexeme.Covers place) (hothers : other.Covers place) :
    lexeme = other := by
  by_contra hne
  -- one of the two stops before the other one starts
  let Apart : Lexeme → Lexeme → Prop := fun one other =>
    one.stop ≤ other.start ∨ other.stop ≤ one.start
  have : Std.Symm Apart := ⟨fun _ _ => Or.symm⟩
  have hpairwise : lexemes.Pairwise Apart := h.pairwise.imp Or.inl
  have happart : Apart lexeme other := hpairwise.forall hmem hother hne
  unfold Covers at hcovers hothers
  rcases happart with hbefore | hbehind <;> omega

theorem existsUnique_covers (h : Tiles first lexemes last) (hfirst : first ≤ place)
    (hlast : place < last) : ∃! lexeme, lexeme ∈ lexemes ∧ lexeme.Covers place := by
  obtain ⟨lexeme, hmem, hcovers⟩ := h.exists_covers hfirst hlast
  refine ⟨lexeme, ⟨hmem, hcovers⟩, ?_⟩
  rintro other ⟨hother, hothers⟩
  exact h.eq_of_covers hother hmem hothers hcovers

/-- There are no more lexemes than characters. -/
theorem length_le (h : Tiles first lexemes last) : first + lexemes.length ≤ last := by
  induction lexemes generalizing first with
  | nil => exact Nat.le_of_eq h
  | cons lexeme rest ih =>
    obtain ⟨rfl, hlt, hrest⟩ := h
    have hlength := ih hrest
    rw [List.length_cons]
    omega

end Tiles

/-! ## The lexemes of a code -/

/-- What stands behind a letter: its numeral, and what is left. -/
theorem eq_append_drop (rest : List Char) :
    rest = Numeral.scan rest ++ rest.drop (Numeral.scan rest).length :=
  List.prefix_append_drop (Numeral.longest_scan rest).starts

/-- The places of the letter, of its numeral and of what is left. -/
theorem zipIdx_cons_eq (c : Char) (rest : List Char) (place : Nat) :
    (c :: rest).zipIdx place =
      (c, place) :: (Numeral.scan rest).zipIdx (place + 1) ++
        (rest.drop (Numeral.scan rest).length).zipIdx (place + 1 + (Numeral.scan rest).length) := by
  rw [List.cons_append, ← List.zipIdx_append, ← eq_append_drop rest, List.zipIdx_cons]

theorem tiles_scan (line place : Nat) (cs : List Char) :
    Tiles place (scan line place cs) (place + cs.length) := by
  fun_induction scan line place cs with
  | case1 => rfl
  | case2 place c rest hletter numeral ih =>
    have hlength : numeral.length ≤ rest.length := (Numeral.longest_scan rest).starts.length_le
    have hlast : place + 1 + numeral.length + (rest.drop numeral.length).length =
        place + (c :: rest).length := by
      rw [List.length_cons, List.length_drop]
      omega
    refine ⟨rfl, ?_, hlast ▸ ih⟩
    change place < place + 1 + numeral.length
    omega
  | case3 place c rest hletter ih =>
    refine ⟨rfl, Nat.lt_succ_self place, ?_⟩
    rw [List.length_cons, ← Nat.add_assoc, Nat.add_right_comm]
    exact ih

section Behind

/-! What is left of a code behind its first places is what the lexemes from there on are read from.
The next two lemmas go on by one character. -/

variable {c : Char} {rest : List Char}

theorem getElem?_of_drop_eq (hcode : code.drop place = c :: rest) : code[place]? = some c := by
  rw [← Nat.add_zero place, ← List.getElem?_drop, hcode]
  rfl

theorem drop_succ_of_drop_eq (hcode : code.drop place = c :: rest) :
    code.drop (place + 1) = rest := by
  rw [← List.drop_drop, hcode, List.drop_one, List.tail_cons]

/-- A word that is read there stands there. -/
theorem standsIn_wordAt (hletter : isLetter c = true) (hcode : code.drop place = c :: rest) :
    (wordAt line place c (Numeral.scan rest)).StandsIn code := by
  have hrest : code.drop (place + 1) = rest := drop_succ_of_drop_eq hcode
  have hlongest := Numeral.longest_scan rest
  have htext : (String.ofList (Numeral.scan rest)).toList = Numeral.scan rest :=
    String.toList_ofList
  refine ⟨hletter, getElem?_of_drop_eq hcode, ?_, ?_, ?_, ?_⟩
  · change (String.ofList (Numeral.scan rest)).toList =
      (code.drop (place + 1)).take (place + 1 + (Numeral.scan rest).length - (place + 1))
    rw [htext, hrest, Nat.add_sub_cancel_left]
    exact List.prefix_iff_eq_take.mp hlongest.starts
  · change Numeral.Longest (String.ofList (Numeral.scan rest)).toList (code.drop (place + 1))
    rw [htext, hrest]
    exact hlongest
  · change place < place + 1 + (Numeral.scan rest).length
    omega
  · change place + 1 + (Numeral.scan rest).length ≤ code.length
    have hlength := congrArg List.length hcode
    rw [List.length_drop, List.length_cons] at hlength
    have hshort := hlongest.starts.length_le
    omega

end Behind

/-- What a lexeme says is what stands at its place. -/
theorem standsIn_of_mem (hcode : code.drop place = cs) (hmem : lexeme ∈ scan line place cs) :
    lexeme.StandsIn code := by
  fun_induction scan line place cs with
  | case1 => cases hmem
  | case2 place c rest hletter numeral ih =>
    rcases List.mem_cons.mp hmem with rfl | hmem
    · exact standsIn_wordAt hletter hcode
    · -- the scan goes on behind the numeral
      refine ih ?_ hmem
      rw [← List.drop_drop, drop_succ_of_drop_eq hcode]
  | case3 place c rest hletter ih =>
    rcases List.mem_cons.mp hmem with rfl | hmem
    · exact ⟨getElem?_of_drop_eq hcode, Bool.eq_false_iff.mpr hletter⟩
    · exact ih (drop_succ_of_drop_eq hcode) hmem

/-- A word is one of the letters of the code and the numeral behind that. -/
theorem exists_eq_wordAt {w : Word} (h : .word w ∈ scan line place cs) :
    ∃ start c rest, isLetter c = true ∧ w = wordAt line start c (Numeral.scan rest) := by
  fun_induction scan line place cs with
  | case1 => cases h
  | case2 place c rest hletter numeral ih =>
    rcases List.mem_cons.mp h with heq | hmem
    · cases heq
      exact ⟨place, c, rest, hletter, rfl⟩
    · exact ih hmem
  | case3 place c rest hletter ih =>
    rcases List.mem_cons.mp h with heq | hmem
    · cases heq
    · exact ih hmem

theorem mem_filterMap_word? {w : Word} : w ∈ lexemes.filterMap word? ↔ .word w ∈ lexemes := by
  rw [List.mem_filterMap]
  constructor
  · rintro ⟨_ | _, hmem, hword⟩ <;> cases hword
    exact hmem
  · exact fun hmem => ⟨.word w, hmem, rfl⟩

/-! ## Letters -/

/-- Numerals are without letters. -/
theorem isLetter_of_isNumeral (h : Numeral.IsNumeral cs) {c : Char} (hc : c ∈ cs) :
    isLetter c = false := by
  rcases h.of_mem hc with rfl | rfl | rfl | hdigit
  · decide
  · decide
  · decide
  · exact Text.isLetter_of_isDigit hdigit

/-- The letters of the words, with their places, are the letters of the code. -/
theorem letters_eq (line place : Nat) (cs : List Char) :
    ((scan line place cs).filterMap word?).map (fun w => (w.letter, w.start)) =
      (cs.zipIdx place).filter fun p => isLetter p.1 := by
  fun_induction scan line place cs with
  | case1 => rfl
  | case2 place c rest hletter numeral ih =>
    -- no character of the numeral is a letter
    have hnumeral : (numeral.zipIdx (place + 1)).filter (fun p => isLetter p.1) = [] := by
      refine List.filter_eq_nil_iff.mpr fun p hp => ?_
      have hmem := List.fst_mem_of_mem_zipIdx hp
      have hread := (Numeral.longest_scan rest).isNumeral.resolve_left (List.ne_nil_of_mem hmem)
      simp [isLetter_of_isNumeral hread hmem]
    rw [zipIdx_cons_eq, List.filter_append, List.filter_cons_of_pos (by exact hletter), hnumeral,
      ← ih]
    rfl
  | case3 place c rest hletter ih =>
    rw [List.zipIdx_cons, List.filter_cons_of_neg (by exact hletter), ← ih]
    rfl

/-! ## Stray characters -/

theorem covers_wordAt_iff {c : Char} {numeral : List Char} {other : Nat} :
    (wordAt line place c numeral).covers other = true ↔
      place ≤ other ∧ other < place + 1 + numeral.length :=
  Word.covers_iff

theorem covers_eq_false_of_lt {w : Word} (hw : w ∈ (scan line first cs).filterMap word?)
    (hplace : place < first) : w.covers place = false := by
  have hstart : first ≤ w.start :=
    ((tiles_scan line first cs).bounds (mem_filterMap_word?.mp hw)).1
  rw [Bool.eq_false_iff, ne_eq, Word.covers_iff]
  exact fun hcovers => Nat.not_le_of_lt hplace (hstart.trans hcovers.1)

/-- The stray characters are those that no word covers. -/
theorem strays_eq (line place : Nat) (cs : List Char) :
    (scan line place cs).filterMap stray? =
      ((cs.zipIdx place).filter fun p =>
        !((scan line place cs).filterMap word?).any (·.covers p.2)).map Prod.fst := by
  fun_induction scan line place cs with
  | case1 => rfl
  | case2 place c rest hletter numeral ih =>
    rw [List.filterMap_cons_none (by rfl), List.filterMap_cons_some (by rfl), ih, zipIdx_cons_eq,
      List.filter_append]
    -- the word covers its own characters, and none of those behind it
    have hword : ((c, place) :: numeral.zipIdx (place + 1)).filter (fun p =>
        !(wordAt line place c numeral :: ((scan line (place + 1 + numeral.length)
          (rest.drop numeral.length)).filterMap word?)).any (·.covers p.2)) = [] := by
      refine List.filter_eq_nil_iff.mpr fun p hp => ?_
      have hcovers : (wordAt line place c numeral).covers p.2 = true := by
        rw [covers_wordAt_iff]
        rcases List.mem_cons.mp hp with rfl | hp
        · exact ⟨Nat.le_refl place, by dsimp only; omega⟩
        · have hfirst := List.le_snd_of_mem_zipIdx hp
          have hlast := List.snd_lt_of_mem_zipIdx hp
          omega
      simp [hcovers]
    rw [hword, List.nil_append]
    congr 1
    refine List.filter_congr fun p hp => ?_
    have hbehind : (wordAt line place c numeral).covers p.2 = false := by
      rw [Bool.eq_false_iff, ne_eq, covers_wordAt_iff]
      exact fun hcovers => Nat.not_lt_of_le (List.le_snd_of_mem_zipIdx hp) hcovers.2
    rw [List.any_cons, hbehind, Bool.false_or]
  | case3 place c rest hletter ih =>
    -- the words all start behind the stray character
    have hstray : ((scan line (place + 1) rest).filterMap word?).any (·.covers place) = false :=
      List.any_eq_false.mpr fun w hw => by
        simp [covers_eq_false_of_lt hw (Nat.lt_succ_self place)]
    rw [List.filterMap_cons_some (by rfl), List.filterMap_cons_none (by rfl), ih, List.zipIdx_cons,
      List.filter_cons_of_pos (by simpa using hstray)]
    rfl

end Lexeme

/-! ## The words of a line and the remarks about it -/

namespace SourceLine

/-- The line that has a given code. -/
def ofCode (number : Nat) (raw : String) (code : List Char) : SourceLine :=
  { number, raw, code := String.ofList code, lexemes := Lexeme.scan number 0 code }

/-- Every place of the code is covered by exactly one lexeme, from left to right. The words are the
letters of the code, each with the longest numeral behind it. What no word covers is no letter, and
is remarked upon, once and in its order. There are no more lexemes than characters. -/
theorem words_and_warnings_tile (number : Nat) (raw : String) (code : List Char) :
    let line := ofCode number raw code
    (∀ place < code.length, ∃! lexeme, lexeme ∈ line.lexemes ∧ lexeme.Covers place) ∧
    (line.lexemes.Pairwise fun one other => one.stop ≤ other.start) ∧
    (∀ w ∈ line.words, w.StandsIn code) ∧
    line.words.map (fun w => (w.letter, w.start)) =
      (code.zipIdx.filter fun p => Lexeme.isLetter p.1) ∧
    (∀ c ∈ line.strays, Lexeme.isLetter c = false) ∧
    Program.lineWarnings line =
      (code.zipIdx.filter fun p => !line.words.any (·.covers p.2)).map
        (fun p => .warning number (.strayCharacter p.1)) ∧
    line.lexemes.length ≤ code.length := by
  intro line
  have htiles : Lexeme.Tiles 0 line.lexemes code.length := by
    rw [← Nat.zero_add code.length]
    exact Lexeme.tiles_scan number 0 code
  have hstands : ∀ lexeme ∈ line.lexemes, lexeme.StandsIn code := fun lexeme hmem =>
    Lexeme.standsIn_of_mem List.drop_zero hmem
  refine ⟨fun place hplace => htiles.existsUnique_covers (Nat.zero_le place) hplace,
    htiles.pairwise, fun w hw => hstands _ (Lexeme.mem_filterMap_word?.mp hw),
    Lexeme.letters_eq number 0 code, fun c hc => ?_, ?_, ?_⟩
  · obtain ⟨lexeme, hmem, hstray⟩ := List.mem_filterMap.mp hc
    cases lexeme with
    | word => cases hstray
    | stray d place =>
      cases hstray
      exact (hstands _ hmem).2
  · have hstrays : line.strays = _ := Lexeme.strays_eq number 0 code
    rw [Program.lineWarnings, hstrays, List.map_map]
    rfl
  · simpa using htiles.length_le

/-- A second point, a digit behind it, a sign without digits, and a percent sign: all of them are
stray. The number of the last word has a digit of another script. -/
def mixedCode : List Char :=
  ['G', '1', '.', '5', '.', '2', 'X', '-', 'Y', '+', '.', '٣', '%']

theorem mixedCode_tiled :
    let line := ofCode 1 "" mixedCode
    line.words.map (fun w => (w.letter, w.text, w.start, w.stop)) =
      [('G', "1.5", 0, 4), ('X', "", 6, 7), ('Y', "+.٣", 8, 12)] ∧
    (∃! lexeme, lexeme ∈ line.lexemes ∧ lexeme.Covers 5) ∧
    (∀ w ∈ line.words, w.StandsIn mixedCode) ∧
    Program.lineWarnings line =
      ['.', '2', '-', '%'].map fun c => .warning 1 (.strayCharacter c) := by
  obtain ⟨hcovered, -, hstands, -, -, hwarnings, -⟩ := words_and_warnings_tile 1 "" mixedCode
  refine ⟨by decide +kernel, hcovered 5 (by decide), hstands, hwarnings.trans ?_⟩
  decide +kernel

end SourceLine

end Lathe
