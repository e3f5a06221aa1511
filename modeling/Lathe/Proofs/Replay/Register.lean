import Lathe.Profile.Basic
import Lathe.Proofs.Replay.Path

/-!
# What stays in force

Most of what a statement sets stays in force until another statement sets it anew. `Register` lists
all of these settings. A register is written by statements of few kinds, which `Register.write`
tells from the words of the statement alone, and its value is the one that was written last.

* `Register.read_execute`: a statement writes the registers that it is said to write, and leaves
  alone all the others;
* `Register.read_run`: so after a run, a register has the value that was written last;
* `Setup.registers_last_written`: and so it has after every replay that gets to its cursor.
-/

namespace Lathe

/-! ## Statements by their codes -/

namespace Statement

variable {α : Type} {s : Statement}

/-- What a table of preparatory codes has for a statement. -/
def byG (s : Statement) (table : List (Int × α)) : Option α :=
  table.findSome? fun (n, a) => if s.isG n then some a else none

/-- What a table of miscellaneous codes has for a statement. -/
def byM (s : Statement) (table : List (Int × α)) : Option α :=
  table.findSome? fun (n, a) => if s.isM n then some a else none

/-- The tool that a tool statement selects: the one that it names, if the number is positive. -/
def selectedTool (s : Statement) : Option Int :=
  match s.kind, s.toolNumber with
  | .tool, .ok (some id) => if 0 < id then some id else none
  | _, _ => none

/-- The length offset of the tool that H names, if there is such a tool. -/
def namedOffset (tools : ToolTable) (s : Statement) : Option Float :=
  match Machine.offsetTool s with
  | .ok (some id) => tools.lengthOffset id
  | _ => none

theorem byG_eq_none (h : ∀ n, s.isG n = false) (table : List (Int × α)) : s.byG table = none := by
  simp [byG, h]

theorem byM_eq_none (h : ∀ n, s.isM n = false) (table : List (Int × α)) : s.byM table = none := by
  simp [byM, h]

theorem isG_of_kind_ne (h : s.kind ≠ .preparatory) (n : Int) : s.isG n = false := by
  simp [isG, h]

theorem isM_of_kind_ne (h : s.kind ≠ .miscellaneous) (n : Int) : s.isM n = false := by
  simp [isM, h]

theorem selectedTool_of_kind_ne (h : s.kind ≠ .tool) : s.selectedTool = none := by
  unfold selectedTool
  split
  next hkind _ => exact absurd hkind h
  next => rfl

end Statement

section Tables

variable {α β : Type} {codes : List (Int × β)} {s : Statement}

/-- What a table has for a code can be put into other words before it is looked up, if every code
stands in the table only once. Entries for which there are no other words are left out. -/
theorem lookup_bind_eq_findSome? (hcodes : (codes.map (·.1)).Nodup) (f : β → Option α)
    (code : Int) :
    (codes.lookup code).bind f =
      (codes.filterMap fun (n, b) => (f b).map (n, ·)).findSome? fun (n, a) =>
        if code = n then some a else none := by
  induction codes with
  | nil => rfl
  | cons entry rest ih =>
    obtain ⟨n, b⟩ := entry
    obtain ⟨hnew, hrest⟩ := List.nodup_cons.mp hcodes
    rw [List.lookup_cons]
    by_cases hcode : code = n
    · subst hcode
      cases hf : f b with
      | some a => simp [hf]
      | none =>
        simp only [beq_self_eq_true, Option.bind_some, hf, List.filterMap_cons, Option.map_none]
        rw [eq_comm, List.findSome?_eq_none_iff]
        rintro ⟨n, a⟩ hmem
        obtain ⟨⟨n', b'⟩, hb', hput⟩ := List.mem_filterMap.mp hmem
        obtain ⟨a', -, heq⟩ := Option.map_eq_some_iff.mp hput
        cases heq
        -- no later entry is for this code
        have hlater : code ≠ n' := by
          rintro rfl
          exact hnew (List.mem_map.mpr ⟨_, hb', rfl⟩)
        simp [hlater]
    · rw [beq_eq_false_iff_ne.mpr hcode]
      cases hf : f b with
      | some a => simp [hf, hcode, ih hrest]
      | none => simp [hf, ih hrest]

theorem ofCode?_bind_eq_findSome? (hcodes : (codes.map (·.1)).Nodup) (f : β → Option α)
    (code : Option Code) :
    (match code with
      | some (.whole n) => codes.lookup n
      | _ => none).bind f =
      (codes.filterMap fun (n, b) => (f b).map (n, ·)).findSome? fun (n, a) =>
        if code = some (.whole n) then some a else none := by
  split
  next n =>
    rw [lookup_bind_eq_findSome? hcodes]
    simp only [Option.some.injEq, Code.whole.injEq]
  next hcode =>
    -- a statement without a whole code is not in any table
    have hnone (n : Int) : code ≠ some (.whole n) := hcode n
    simp only [hnone, ↓reduceIte, Option.bind_none]
    rw [eq_comm, List.findSome?_eq_none_iff]
    exact fun _ _ => rfl

/-- What a preparatory statement sets, put into other words. -/
theorem Modal.ofCode?_bind_eq_byG (h : s.kind = .preparatory) (f : Modal → Option α) :
    (Modal.ofCode? s.code).bind f =
      s.byG (Modal.codes.filterMap fun (n, modal) => (f modal).map (n, ·)) := by
  have hcodes : (Modal.codes.map (·.1)).Nodup := by decide
  refine (ofCode?_bind_eq_findSome? hcodes f s.code).trans ?_
  simp [Statement.byG, Statement.isG, h]

/-- What a miscellaneous statement does, put into other words. -/
theorem Auxiliary.ofCode?_bind_eq_byM (h : s.kind = .miscellaneous) (f : Auxiliary → Option α) :
    (Auxiliary.ofCode? s.code).bind f =
      s.byM (Auxiliary.codes.filterMap fun (n, auxiliary) => (f auxiliary).map (n, ·)) := by
  have hcodes : (Auxiliary.codes.map (·.1)).Nodup := by decide
  refine (ofCode?_bind_eq_findSome? hcodes f s.code).trans ?_
  simp [Statement.byM, Statement.isM, h]

/-- A preparatory statement sets what its code stands for in the table. -/
theorem Statement.isG_iff_ofCode? {n : Int} {modal : Modal} (h : s.kind = .preparatory)
    (hmem : (n, modal) ∈ Modal.codes) :
    s.isG n = true ↔ Modal.ofCode? s.code = some modal := by
  have hlookup : ∀ entry ∈ Modal.codes, Modal.codes.lookup entry.1 = some entry.2 := by decide
  -- no two codes set the same
  have hunique : ∀ entry ∈ Modal.codes, ∀ other ∈ Modal.codes,
      entry.2 = other.2 → entry.1 = other.1 := by decide
  unfold isG
  simp only [h, true_and, decide_eq_true_eq]
  constructor
  · intro hcode
    rw [hcode]
    exact hlookup _ hmem
  · intro hmodal
    unfold Modal.ofCode? at hmodal
    split at hmodal
    next k hcode =>
      have hn : k = n := hunique _ (mem_of_lookup_eq_some hmodal) _ hmem rfl
      rw [hcode, hn]
    next => cases hmodal

end Tables

/-! ## Registers -/

/-- What stays in force until it is set anew. -/
inductive Register where
  | positioning
  | compensation
  | units
  | spindleMode
  | spindle
  | coolant
  | spindleSpeed
  | spindleLimit
  | feedRate
  | tool
  | cycle
  | lengthOffset
  | line
deriving DecidableEq, Repr

namespace Register

/-- What a register holds. -/
abbrev Value : Register → Type
  | .positioning => Positioning
  | .compensation => Compensation
  | .units => Units
  | .spindleMode => SpindleMode
  | .spindle => Spindle
  | .coolant => Coolant
  | .spindleSpeed => Float
  | .spindleLimit => Option Float
  | .feedRate => Float
  | .tool => Int
  | .cycle => Option Cycle
  | .lengthOffset => Float
  | .line => Nat

/-- What a register of a machine holds. -/
def read (m : Machine) : (r : Register) → r.Value
  | .positioning => m.positioning
  | .compensation => m.compensation
  | .units => m.units
  | .spindleMode => m.spindleMode
  | .spindle => m.spindle
  | .coolant => m.coolant
  | .spindleSpeed => m.spindleSpeed
  | .spindleLimit => m.spindleLimit
  | .feedRate => m.feedRate
  | .tool => m.tool
  | .cycle => m.cycle
  | .lengthOffset => m.lengthOffset
  | .line => m.line

/-- What a register holds before anything is written to it. -/
def initial : (r : Register) → r.Value
  | .positioning => Positioning.absolute
  | .compensation => Compensation.off
  | .units => Units.millimetres
  | .spindleMode => SpindleMode.revolutions
  | .spindle => Spindle.stopped
  | .coolant => Coolant.off
  | .spindleSpeed => (0.0 : Float)
  | .spindleLimit => (none : Option Float)
  | .feedRate => (0.0 : Float)
  | .tool => (1 : Int)
  | .cycle => (none : Option Cycle)
  | .lengthOffset => (0.0 : Float)
  | .line => (0 : Nat)

/-- What a statement writes to a register, if it does. -/
def write (setup : Setup) (s : Statement) : (r : Register) → Option r.Value
  | .positioning => s.byG [(90, Positioning.absolute), (91, .incremental)]
  | .compensation => s.byG [(40, Compensation.off), (41, .on .left), (42, .on .right)]
  | .units => s.byG [(20, Units.inches), (21, .millimetres)]
  | .spindleMode => s.byG [(96, SpindleMode.surfaceSpeed), (97, .revolutions)]
  | .spindle => s.byM [(3, Spindle.clockwise), (4, .counterclockwise), (5, .stopped)]
  | .coolant => s.byM [(7, Coolant.mist), (8, .flood), (9, .off)]
  | .spindleSpeed => if s.isG 50 then none else s.param 'S'
  | .spindleLimit => if s.isG 50 then (s.param 'S').map some else none
  | .feedRate => s.param 'F'
  | .tool => s.selectedTool
  | .cycle =>
    s.byG ([70, 71, 72, 73, 74, 75, 76].map fun n =>
      (n, some ⟨n, s.line, Machine.givenWords s⟩))
  | .lengthOffset =>
    if s.isG 49 then some (0.0 : Float)
    else if s.isG 43 then s.namedOffset setup.tools
    else if s.isG 44 ∧ setup.negatesOffset then (s.namedOffset setup.tools).map fun x : Float => -x
    else none
  | .line => some s.line

/-! ## The parts of a statement -/

variable {setup : Setup} {s : Statement} {m m' : Machine} {remarks : List Finding}

theorem read_initial (home : Point Float) (r : Register) : r.read (.initial home) = r.initial := by
  cases r <;> rfl

/-- The value that a preparatory code puts into the register of its mode. -/
def ofModal (setup : Setup) (s : Statement) (modal : Modal) : (r : Register) → Option r.Value
  | .positioning => match modal with | .positioning p => some p | _ => none
  | .compensation => match modal with | .compensation c => some c | _ => none
  | .units => match modal with | .units u => some u | _ => none
  | .spindleMode => match modal with | .spindleMode mode => some mode | _ => none
  | .spindleLimit => match modal with | .spindleLimit => (s.param 'S').map some | _ => none
  | .cycle => match modal with
    | .cycle number => some (some ⟨number, s.line, Machine.givenWords s⟩)
    | _ => none
  | .lengthOffset => match modal with
    | .lengthOffset => s.namedOffset setup.tools
    | .negatedOffset =>
      if setup.negatesOffset then (s.namedOffset setup.tools).map fun x : Float => -x else none
    | .cancelOffset => some (0.0 : Float)
    | _ => none
  | _ => none

/-- Putting an offset into force writes that register, if there is an offset, and no other one. -/
theorem read_applyOffset {tools : ToolTable} {adjust : Float → Float}
    (h : m.applyOffset tools adjust s = .ok (m', remarks)) :
    m'.lengthOffset = ((s.namedOffset tools).map adjust).getD m.lengthOffset ∧
      ∀ r : Register, r ≠ .lengthOffset → r.read m' = r.read m := by
  unfold Machine.applyOffset at h
  unfold Statement.namedOffset
  split at h
  next => cases h
  next hnone =>
    cases h
    exact ⟨by simp [hnone], fun _ _ => rfl⟩
  next id hid =>
    split at h
    next offset hoffset =>
      cases h
      refine ⟨by simp [hid, hoffset], fun r hr => ?_⟩
      cases r with
      | lengthOffset => exact absurd rfl hr
      | _ => rfl
    next hoffset =>
      cases h
      exact ⟨by simp [hid, hoffset], fun _ _ => rfl⟩

theorem read_applyModal {modal : Modal} (h : m.applyModal setup s modal = .ok (m', remarks))
    (r : Register) : r.read m' = (r.ofModal setup s modal).getD (r.read m) := by
  cases modal with
  | lengthOffset =>
    obtain ⟨hoffset, hother⟩ := read_applyOffset h
    cases r with
    | lengthOffset =>
      rw [Option.map_id_fun] at hoffset
      exact hoffset
    | _ => exact hother _ nofun
  | negatedOffset =>
    rw [Machine.applyModal] at h
    split at h
    next hnegates =>
      obtain ⟨hoffset, hother⟩ := read_applyOffset h
      cases r with
      | lengthOffset =>
        show m'.lengthOffset = (if _ then _ else _ : Option Float).getD m.lengthOffset
        rw [if_pos hnegates]
        exact hoffset
      | _ => exact hother _ nofun
    next hplain =>
      -- the lathe does not negate offsets, and takes no notice of the code
      cases h
      cases r with
      | lengthOffset =>
        show m.lengthOffset = (if _ then _ else _ : Option Float).getD m.lengthOffset
        rw [if_neg hplain]
        rfl
      | _ => rfl
  | spindleLimit =>
    cases h
    cases hlimit : s.param 'S' with
    | none =>
      cases r with
      | spindleLimit =>
        show m.spindleLimit = ((s.param 'S').map some).getD m.spindleLimit
        rw [hlimit]
        rfl
      | _ => rfl
    | some limit =>
      cases r with
      | spindleLimit =>
        show some limit = ((s.param 'S').map some).getD m.spindleLimit
        rw [hlimit]
        rfl
      | _ => rfl
  | units | compensation | cancelOffset | positioning | spindleMode | cycle =>
    cases h
    cases r <;> rfl

theorem read_applyAxisWords (r : Register) : r.read (m.applyAxisWords s) = r.read m := by
  cases r <;> rfl

theorem read_applyMove (start : Point Float) (move : Move) (r : Register) :
    r.read (m.applyMove setup s start move) = r.read m := by
  cases move <;> cases r <;> rfl

/-- Of a preparatory statement before its speed and feed, only the mode of its code writes. -/
theorem read_applyPreparatory (h : m.applyPreparatory setup s = .ok (m', remarks)) (r : Register) :
    r.read m' = ((Modal.ofCode? s.code).bind (r.ofModal setup s ·)).getD (r.read m) := by
  unfold Machine.applyPreparatory at h
  cases hmodal : Modal.ofCode? s.code with
  | none =>
    rw [hmodal] at h
    cases h
    -- whether the machine moves or not, no register shows it
    split <;> simp only [read_applyMove, read_applyAxisWords] <;> rfl
  | some modal =>
    simp only [hmodal] at h
    cases hset : m.applyModal setup s modal with
    | error fault => simp [hset, Except.map] at h
    | ok done =>
      rw [hset] at h
      cases h
      refine Eq.trans ?_ (read_applyModal hset r)
      split <;> simp only [read_applyMove, read_applyAxisWords]

/-- What the speed and the feed of a statement write. -/
def ofRates (s : Statement) : (r : Register) → Option r.Value
  | .spindleSpeed => if s.isG 50 then none else s.param 'S'
  | .feedRate => s.param 'F'
  | _ => none

theorem read_applyRates (r : Register) :
    r.read (m.applyRates s) = (r.ofRates s).getD (r.read m) := by
  cases r with
  | spindleSpeed =>
    show (if s.isG 50 then _ else _) = (if s.isG 50 then _ else _ : Option Float).getD _
    split <;> rfl
  | _ => rfl

/-- What the number of a tool statement writes. -/
def ofTool (s : Statement) : (r : Register) → Option r.Value
  | .tool => s.selectedTool
  | _ => none

theorem read_applyTool (hkind : s.kind = .tool) (h : m.applyTool s = .ok m') (r : Register) :
    r.read m' = (r.ofTool s).getD (r.read m) := by
  have hselected : s.selectedTool = match s.toolNumber with
      | .ok (some id) => if 0 < id then some id else none
      | _ => none := by
    unfold Statement.selectedTool
    rw [hkind]
    split <;> simp_all
  unfold Machine.applyTool at h
  split at h
  next => cases h
  next id hid =>
    cases h
    rw [hid] at hselected
    -- a number that is not positive names no tool
    by_cases hpositive : 0 < id
    · rw [if_pos hpositive]
      cases r with
      | tool =>
        show id = s.selectedTool.getD m.tool
        simp [hselected, hpositive]
      | _ => rfl
    · rw [if_neg hpositive]
      cases r with
      | tool =>
        show m.tool = s.selectedTool.getD m.tool
        simp [hselected, hpositive]
      | _ => rfl
  next hnone =>
    cases h
    rw [hnone] at hselected
    cases r with
    | tool =>
      show m.tool = s.selectedTool.getD m.tool
      rw [hselected]
      rfl
    | _ => rfl

/-- The value that a miscellaneous code puts into its register. -/
def ofAuxiliary (auxiliary : Auxiliary) : (r : Register) → Option r.Value
  | .spindle => match auxiliary with | .spindle direction => some direction | _ => none
  | .coolant => match auxiliary with | .coolant kind => some kind | _ => none
  | _ => none

theorem read_applyAuxiliary (r : Register) :
    r.read (m.applyAuxiliary s).1 =
      ((Auxiliary.ofCode? s.code).bind (r.ofAuxiliary ·)).getD (r.read m) := by
  unfold Machine.applyAuxiliary
  cases Auxiliary.ofCode? s.code with
  | none => rfl
  | some auxiliary => cases auxiliary <;> cases r <;> rfl

/-- What the place of a statement writes. -/
def ofLine (s : Statement) : (r : Register) → Option r.Value
  | .line => some s.line
  | _ => none

theorem read_line (r : Register) :
    r.read { m with line := s.line } = (r.ofLine s).getD (r.read m) := by
  cases r <;> rfl

/-! ## A statement -/

theorem getD_getD {α : Type} (first second : Option α) (a : α) :
    first.getD (second.getD a) = (first.or second).getD a := by
  cases first <;> rfl

/-- The parts of a preparatory statement write what the statement is said to write. -/
theorem write_of_preparatory (hkind : s.kind = .preparatory) (r : Register) :
    r.write setup s = ((r.ofRates s).or
      ((Modal.ofCode? s.code).bind (r.ofModal setup s ·))).or (r.ofLine s) := by
  have htable := Modal.ofCode?_bind_eq_byG hkind (r.ofModal setup s ·)
  have hisM := Statement.isM_of_kind_ne (s := s) (hkind ▸ nofun)
  cases r with
  | positioning | compensation | units | spindleMode | cycle =>
    exact htable.symm.trans Option.or_none.symm
  | spindleLimit =>
    have h50 := Statement.isG_iff_ofCode? hkind (show (50, .spindleLimit) ∈ Modal.codes by decide)
    show (if s.isG 50 then _ else _ : Option (Option Float)) = _
    simp only [h50]
    rcases Modal.ofCode? s.code with _ | modal
    · rfl
    · cases modal with
      | spindleLimit => exact (if_pos rfl).trans Option.or_none.symm
      | _ => rfl
  | lengthOffset =>
    have h43 := Statement.isG_iff_ofCode? hkind (show (43, .lengthOffset) ∈ Modal.codes by decide)
    have h44 := Statement.isG_iff_ofCode? hkind (show (44, .negatedOffset) ∈ Modal.codes by decide)
    have h49 := Statement.isG_iff_ofCode? hkind (show (49, .cancelOffset) ∈ Modal.codes by decide)
    show (if s.isG 49 then some (0.0 : Float) else if s.isG 43 then _ else if _ then _ else _) = _
    -- the codes are told apart by what the table has for them
    simp only [h43, h44, h49]
    rcases Modal.ofCode? s.code with _ | modal
    · simp only [reduceCtorEq, ↓reduceIte, false_and]
      rfl
    · cases modal <;>
        simp only [Option.some.injEq, reduceCtorEq, ↓reduceIte, true_and, false_and]
      case lengthOffset | negatedOffset => exact Option.or_none.symm
      all_goals rfl
  | spindle | coolant =>
    refine (Statement.byM_eq_none hisM _).trans ?_
    cases Modal.ofCode? s.code <;> rfl
  | tool =>
    refine (Statement.selectedTool_of_kind_ne (hkind ▸ nofun)).trans ?_
    cases Modal.ofCode? s.code <;> rfl
  | spindleSpeed | feedRate =>
    -- no mode writes a speed or a feed
    have hnone : (none : Option Float) = (Modal.ofCode? s.code).bind fun _ => none := by
      cases Modal.ofCode? s.code <;> rfl
    refine Eq.trans (Eq.trans Option.or_none.symm ?_) Option.or_none.symm
    exact congrArg (Option.or _) hnone
  | line => cases Modal.ofCode? s.code <;> rfl

/-- The registers that only preparatory codes write are not written by other statements. -/
theorem write_eq_none_of_not_isG (hisG : ∀ n, s.isG n = false) {r : Register}
    (hr : r ∈ [positioning, compensation, units, spindleMode, spindleLimit, cycle, lengthOffset]) :
    r.write setup s = none := by
  cases r with
  | positioning | compensation | units | spindleMode | cycle => exact Statement.byG_eq_none hisG _
  | spindleLimit =>
    show (if s.isG 50 then _ else _ : Option (Option Float)) = none
    rw [hisG]
    rfl
  | lengthOffset =>
    show (if s.isG 49 then _ else if s.isG 43 then _ else if s.isG 44 ∧ _ then _ else _) = none
    simp only [hisG, Bool.false_eq_true, ↓reduceIte, false_and]
  | spindle | coolant | spindleSpeed | feedRate | tool | line => simp at hr

/-- The parts of a tool statement write what the statement is said to write. -/
theorem write_of_tool (hkind : s.kind = .tool) (r : Register) :
    r.write setup s = ((r.ofTool s).or (r.ofRates s)).or (r.ofLine s) := by
  have hisG := Statement.isG_of_kind_ne (s := s) (hkind ▸ nofun)
  have hisM := Statement.isM_of_kind_ne (s := s) (hkind ▸ nofun)
  cases r with
  | positioning | compensation | units | spindleMode | spindleLimit | cycle | lengthOffset =>
    exact write_eq_none_of_not_isG hisG (by decide)
  | spindle | coolant => exact Statement.byM_eq_none hisM _
  | tool => exact (Option.or_none.trans Option.or_none).symm
  | spindleSpeed | feedRate => exact Option.or_none.symm
  | line => rfl

/-- The parts of a miscellaneous statement write what the statement is said to write. -/
theorem write_of_miscellaneous (hkind : s.kind = .miscellaneous) (r : Register) :
    r.write setup s =
      (((Auxiliary.ofCode? s.code).bind (r.ofAuxiliary ·)).or (r.ofRates s)).or (r.ofLine s) := by
  have htable := Auxiliary.ofCode?_bind_eq_byM hkind (r.ofAuxiliary ·)
  have hisG := Statement.isG_of_kind_ne (s := s) (hkind ▸ nofun)
  cases r with
  | spindle | coolant => exact htable.symm.trans (Option.or_none.trans Option.or_none).symm
  | positioning | compensation | units | spindleMode | spindleLimit | cycle | lengthOffset =>
    refine (write_eq_none_of_not_isG hisG (by decide)).trans ?_
    cases Auxiliary.ofCode? s.code <;> rfl
  | tool =>
    refine (Statement.selectedTool_of_kind_ne (hkind ▸ nofun)).trans ?_
    cases Auxiliary.ofCode? s.code <;> rfl
  | spindleSpeed | feedRate =>
    refine Eq.trans ?_ Option.or_none.symm
    cases Auxiliary.ofCode? s.code <;> rfl
  | line => cases Auxiliary.ofCode? s.code <;> rfl

/-- A statement writes to each register what it is said to write, and leaves it alone if that is
nothing. -/
theorem read_execute (h : m.execute setup s = .ok (m', remarks)) (r : Register) :
    r.read m' = (r.write setup s).getD (r.read m) := by
  -- in each case from the last part to the first: what a later part writes counts
  obtain ⟨hkind, done, hset, rfl⟩ | ⟨hkind, htool, rfl⟩ | ⟨hkind, hauxiliary⟩ :=
    Machine.execute_cases h
  · rw [read_applyRates, read_applyPreparatory hset, read_line, getD_getD, getD_getD,
      write_of_preparatory hkind]
  · rw [read_applyTool hkind htool, read_applyRates, read_applyAxisWords, read_line, getD_getD,
      getD_getD, write_of_tool hkind]
  · have hdone : m' = _ := congrArg Prod.fst hauxiliary.symm
    rw [hdone, read_applyAuxiliary, read_applyRates, read_applyAxisWords, read_line, getD_getD,
      getD_getD, write_of_miscellaneous hkind]

/-! ## A run -/

/-- What statements write to a register last. -/
def lastWritten (setup : Setup) (statements : List Statement) (r : Register) : Option r.Value :=
  (statements.filterMap (r.write setup ·)).getLast?

/-- After a run, a register holds what was written to it last. -/
theorem read_run {count : Nat} {warnings warnings' : List Finding} {statements : List Statement}
    (h : setup.run count m warnings statements = .ok (.finish m' warnings')) (r : Register) :
    r.read m' = (r.lastWritten setup statements).getD (r.read m) := by
  induction statements generalizing count m warnings with
  | nil =>
    cases h
    rfl
  | cons s rest ih =>
    rw [← List.singleton_append] at h
    obtain ⟨between, remarks, hfirst, hrest⟩ := Setup.exists_run_of_append_eq_finish h
    obtain ⟨added, hexecute, -⟩ := Setup.exists_execute_of_run_singleton hfirst
    rw [ih hrest, read_execute hexecute]
    unfold lastWritten
    -- what the first statement writes counts only if no later one writes
    cases hwrite : r.write setup s with
    | none => simp [hwrite]
    | some value => simp [hwrite, List.getLast?_cons]

end Register

/-! ## Bare words -/

namespace Statement

variable {s : Statement} {letter : Char}

/-- No number is given for a letter: all its words are bare. -/
def IsBare (s : Statement) (letter : Char) : Prop :=
  ∀ x, (letter, x) ∈ s.params → x.isNaN = true

/-- The statement without the words of a letter. -/
def without (letter : Char) (s : Statement) : Statement :=
  { s with params := s.params.filter fun word => decide (word.1 ≠ letter) }

theorem lookup_filter_ne {params : Params} {other : Char} (h : other ≠ letter) :
    (params.filter fun word => decide (word.1 ≠ letter)).lookup other = params.lookup other := by
  induction params with
  | nil => rfl
  | cons word rest ih =>
    obtain ⟨l, x⟩ := word
    by_cases hl : l = letter
    · have hother : (other == l) = false := by simpa [hl] using h
      rw [List.filter_cons_of_neg (by simp [hl]), ih, List.lookup_cons, hother]
    · rw [List.filter_cons_of_pos (by simp [hl]), List.lookup_cons, List.lookup_cons, ih]

/-- A statement gives the same numbers without its bare words. -/
theorem param_without (h : s.IsBare letter) (other : Char) :
    (s.without letter).param other = s.param other := by
  unfold param without
  by_cases hother : other = letter
  · subst hother
    have hnone : (s.params.filter fun word => decide (word.1 ≠ other)).lookup other = none := by
      rw [List.lookup_eq_none_iff]
      simp only [List.mem_filter, decide_eq_true_eq, ne_eq]
      intro word hword
      exact bne_iff_ne.mpr (Ne.symm hword.2)
    rw [hnone]
    cases hlookup : s.params.lookup other with
    | none => rfl
    | some x =>
      show none = if (!x.isNaN) = true then some x else none
      rw [h x (mem_of_lookup_eq_some hlookup)]
      rfl
  · rw [lookup_filter_ne hother]

theorem givenWords_without (h : s.IsBare letter) :
    Machine.givenWords (s.without letter) = Machine.givenWords s := by
  unfold Machine.givenWords without
  rw [List.filter_filter]
  apply List.filter_congr
  rintro ⟨l, x⟩ hword
  by_cases hl : l = letter
  · subst hl
    show ((!x.isNaN) && decide (l ≠ l)) = !x.isNaN
    rw [h x hword]
    rfl
  · simp [hl]

end Statement

namespace Register

variable {setup : Setup} {s : Statement}

/-- What a statement writes does not depend on its bare words. -/
theorem write_without {letter : Char} (h : s.IsBare letter) (r : Register) :
    r.write setup (s.without letter) = r.write setup s := by
  have hparam := Statement.param_without h
  have hwords := Statement.givenWords_without h
  have hoffset : (s.without letter).namedOffset setup.tools = s.namedOffset setup.tools := by
    unfold Statement.namedOffset Machine.offsetTool
    rw [hparam]
  cases r with
  | spindleSpeed =>
    show (if s.isG 50 then _ else (s.without letter).param 'S') = _
    rw [hparam]
    rfl
  | spindleLimit =>
    show (if s.isG 50 then ((s.without letter).param 'S').map some else _) = _
    rw [hparam]
    rfl
  | feedRate => exact hparam 'F'
  | cycle =>
    -- a cycle takes down the words that are given, and no others
    let cycles (words : Params) : Option (Option Cycle) :=
      s.byG ([70, 71, 72, 73, 74, 75, 76].map fun n => (n, some ⟨n, s.line, words⟩))
    exact congrArg cycles hwords
  | lengthOffset =>
    show (if s.isG 49 then _ else if s.isG 43 then (s.without letter).namedOffset setup.tools
      else if s.isG 44 ∧ _ then ((s.without letter).namedOffset setup.tools).map _ else _) = _
    rw [hoffset]
    rfl
  | positioning | compensation | units | spindleMode | spindle | coolant | tool | line => rfl

/-- Without a code, a statement writes nothing but its speed, its feed and its line. -/
theorem write_of_code_eq_none (hcode : s.code = none) {r : Register}
    (hr : r ∉ [spindleSpeed, feedRate, line]) : r.write setup s = none := by
  have hisG (n : Int) : s.isG n = false := by simp [Statement.isG, hcode]
  have hisM (n : Int) : s.isM n = false := by simp [Statement.isM, hcode]
  cases r with
  | positioning | compensation | units | spindleMode | spindleLimit | cycle | lengthOffset =>
    exact write_eq_none_of_not_isG hisG (by decide)
  | spindle | coolant => exact Statement.byM_eq_none hisM _
  | tool =>
    show s.selectedTool = none
    simp only [Statement.selectedTool, Statement.toolNumber, hcode]
    cases s.kind <;> rfl
  | spindleSpeed | feedRate | line => simp at hr

end Register

namespace Setup

variable {setup : Setup} {program : List Statement} {cursor index : Int} {m : Machine}
  {signals : List Signal} {warnings : List Finding}

/-- If a replay gets to its cursor, then each register holds what the statements up to there have
written to it last, and what it held at first if none of them writes to it. A bare word never
writes: a statement writes the same without its bare words, and a statement without a code, be its
letter bare or be there none, writes nothing but a speed and a feed that are given, and its line. -/
theorem registers_last_written
    (h : setup.replay program cursor = .ok (.done index m signals warnings)) :
    (∀ r : Register, r.read m = (r.lastWritten setup (upTo program cursor)).getD r.initial) ∧
    (∀ (r : Register) (s : Statement) (letter : Char), s.IsBare letter →
      r.write setup (s.without letter) = r.write setup s) ∧
    ∀ (r : Register) (s : Statement), s.code = none → r ∉ [.spindleSpeed, .feedRate, .line] →
      r.write setup s = none := by
  refine ⟨fun r => ?_, fun r s letter hbare => Register.write_without hbare r,
    fun r s hcode hr => Register.write_of_code_eq_none hcode hr⟩
  rw [Register.read_run (run_of_replay_eq_done h), Register.read_initial]

/-- Statements that set some registers, and others that seem to but have nothing to set them to: a
tool that is not there, and bare words. -/
def settings : List Statement := [
  { kind := .preparatory, code := some (.whole 91), params := [('F', 0.25)], line := 1,
    raw := "G91 F0.25", codeText := "91" },
  { kind := .tool, code := some (.whole 202), params := [], line := 2, raw := "T0202",
    codeText := "0202" },
  { kind := .preparatory, code := some (.whole 43), params := [('H', 2.0)], line := 3,
    raw := "G43 H2", codeText := "43" },
  { kind := .preparatory, code := some (.whole 43), params := [('H', 99.0)], line := 4,
    raw := "G43 H99", codeText := "43" },
  { kind := .miscellaneous, code := some (.whole 3), params := [('S', 500.0)], line := 5,
    raw := "M3 S500", codeText := "3" },
  { kind := .preparatory, code := some (.whole 50), params := [('S', 0.0 / 0.0)], line := 6,
    raw := "G50 S", codeText := "50" },
  { kind := .preparatory, code := some (.whole 90), params := [('F', 0.0 / 0.0)], line := 7,
    raw := "G90 F", codeText := "90" }]

/-- The last statement that sets a register decides, not the last one that could have. -/
theorem registers_of_settings :
    let setup := Profile.lathe.setup Profile.lathe.toolTable
    let m := setup.machineAt settings 9
    setup.replay settings 9 = .ok (.done 6 m [] [.warning 4 (.missingTool (.whole 43) 99)]) ∧
    m.positioning = .absolute ∧ m.feedRate = 0.25 ∧ m.tool = 2 ∧ m.spindle = .clockwise ∧
    m.spindleSpeed = 500.0 ∧ m.spindleLimit = none ∧ m.lengthOffset = 3.0 ∧ m.line = 7 := by
  intro setup m
  have hreplay : setup.replay settings 9 =
      .ok (.done 6 m [] [.warning 4 (.missingTool (.whole 43) 99)]) := rfl
  obtain ⟨hwritten, -, -⟩ := registers_last_written hreplay
  refine ⟨hreplay, (hwritten .positioning).trans ?_, (hwritten .feedRate).trans ?_,
    (hwritten .tool).trans ?_, (hwritten .spindle).trans ?_, (hwritten .spindleSpeed).trans ?_,
    (hwritten .spindleLimit).trans ?_, (hwritten .lengthOffset).trans ?_,
    (hwritten .line).trans ?_⟩ <;>
  decide +kernel

end Setup

end Lathe
