import Lathe.DryRun
import Lathe.Proofs.Action
import Lathe.Proofs.Finding
import Lathe.Proofs.Replay.Path

/-!
# What a dry run does

A dry run forgets what was before it, reads its text and replays the program once. It ends in one of
four ways: the text cannot be read, the replay ends in a fault, it gets to its cursor, or it halts;
in the last case a second replay, to the statement before, gives the machine to be kept.
`DryRun.processed` says so as a function.

* `filter_isFatal_report`: of what there is to report, only what halts a replay is fatal;
* `result_process`: a dry run does what `processed` says;
* `exists_outcome_of_process`, `exists_begun_of_process`: so it ends in one of two ways, by whether
  it answers;
* `result_check`: a check looks at every statement, and changes nothing but its own findings.
-/

namespace Lathe

/-! ## Remarks -/

theorem Program.isFatal_eq_false_of_warnings {text : String} {f : Finding}
    (h : f ∈ Program.warnings text) : f.isFatal = false := by
  obtain ⟨line, -, hline⟩ := List.mem_flatMap.mp h
  obtain ⟨stray, -, rfl⟩ := List.mem_map.mp hline
  rfl

theorem Program.filter_isFatal_warnings (text : String) :
    (Program.warnings text).filter Finding.isFatal = [] :=
  Finding.filter_isFatal_eq_nil fun _ hf => isFatal_eq_false_of_warnings hf

namespace Machine

variable {m m' : Machine} {setup : Setup} {s : Statement} {remarks : List Finding} {f : Finding}

theorem isFatal_eq_false_of_applyOffset {adjust : Float → Float}
    (h : m.applyOffset setup.tools adjust s = .ok (m', remarks)) (hf : f ∈ remarks) :
    f.isFatal = false := by
  unfold applyOffset at h
  split at h
  · cases h
  · cases h
    cases hf
  · split at h
    · cases h
      cases hf
    · cases h
      cases hcode : s.code <;> simp_all
      rfl

theorem isFatal_eq_false_of_applyModal {modal : Modal}
    (h : m.applyModal setup s modal = .ok (m', remarks)) (hf : f ∈ remarks) :
    f.isFatal = false := by
  cases modal with
  | lengthOffset => exact isFatal_eq_false_of_applyOffset h hf
  | negatedOffset =>
    rw [applyModal] at h
    split at h
    · exact isFatal_eq_false_of_applyOffset h hf
    · cases h
      cases hf
  | units | compensation | cancelOffset | spindleLimit | positioning | spindleMode | cycle =>
    cases h
    cases hf

/-- What there is to remark on in a statement does not keep the program from running. -/
theorem isFatal_eq_false_of_execute (h : m.execute setup s = .ok (m', remarks)) (hf : f ∈ remarks) :
    f.isFatal = false := by
  obtain ⟨-, done, hprepared, -⟩ | ⟨-, -, rfl⟩ | ⟨-, hauxiliary⟩ := execute_cases h
  · unfold applyPreparatory at hprepared
    cases hmodal : Modal.ofCode? s.code with
    | none =>
      simp only [hmodal, Except.map, Except.ok.injEq, Prod.mk.injEq] at hprepared
      rw [← hprepared.2] at hf
      cases hf
    | some modal =>
      simp only [hmodal] at hprepared
      cases hset : applyModal setup s modal { m with line := s.line } with
      | error fault => simp [hset, Except.map] at hprepared
      | ok done =>
        simp only [hset, Except.map, Except.ok.injEq, Prod.mk.injEq] at hprepared
        rw [← hprepared.2] at hf
        exact isFatal_eq_false_of_applyModal hset hf
  · cases hf
  · unfold applyAuxiliary at hauxiliary
    split at hauxiliary
    case h_4 =>
      cases hauxiliary
      cases hcode : s.code <;> simp_all
      rfl
    all_goals
      cases hauxiliary
      cases hf

end Machine

namespace Setup

variable {setup : Setup} {program statements : List Statement} {m m' : Machine} {index cursor : Int}
  {signals : List Signal} {warnings warnings' : List Finding} {outcome : Outcome} {count : Nat}

theorem isFatal_eq_false_of_run
    (h : setup.run count m warnings statements = .ok (.finish m' warnings'))
    (hwarnings : ∀ f ∈ warnings, f.isFatal = false) : ∀ f ∈ warnings', f.isFatal = false := by
  induction statements generalizing count m warnings with
  | nil =>
    cases h
    exact hwarnings
  | cons s rest ih =>
    rw [run] at h
    cases hobjection : setup.objection? s with
    | some error => simp [hobjection] at h
    | none =>
      cases hexecute : m.execute setup s with
      | error fault => simp [hobjection, hexecute] at h
      | ok done =>
        simp only [hobjection, hexecute] at h
        refine ih h fun f hf => ?_
        rcases List.mem_append.mp hf with hf | hf
        · exact hwarnings f hf
        · exact Machine.isFatal_eq_false_of_execute hexecute hf

/-- The remarks of a replay that gets to its cursor are not fatal. -/
theorem isFatal_eq_false_of_replay
    (h : setup.replay program cursor = .ok (.done index m signals warnings)) :
    ∀ f ∈ warnings, f.isFatal = false :=
  isFatal_eq_false_of_run (run_of_replay_eq_done h) fun _ hf => absurd hf List.not_mem_nil

/-- The remarks of a replay are not fatal, wherever it ends. -/
theorem isFatal_eq_false_of_mem_warnings (h : setup.replay program cursor = .ok outcome) :
    ∀ f ∈ outcome.warnings, f.isFatal = false := by
  cases outcome with
  | done index m signals warnings => exact isFatal_eq_false_of_replay h
  | halted index error warnings =>
    -- the remarks are those of the replay to the statement before
    obtain ⟨b, s, m, signals, -, -, -, -, hbefore, -⟩ := replay_eq_halted h
    exact isFatal_eq_false_of_replay hbefore

/-- Of what there is to report of a text and of the replay of its program, the fatal part is what
has halted the replay. -/
theorem filter_isFatal_report (text : String) (h : setup.replay program cursor = .ok outcome) :
    (Program.warnings text ++ outcome.warnings ++ outcome.error?.toList).filter Finding.isFatal =
      outcome.error?.toList := by
  have hremarks := Finding.filter_isFatal_eq_nil (isFatal_eq_false_of_mem_warnings h)
  rw [List.filter_append, List.filter_append, Program.filter_isFatal_warnings, hremarks]
  cases outcome with
  | done index m signals warnings => rfl
  | halted index error warnings =>
    obtain ⟨-, -, -, -, -, -, -, ⟨-, -, rfl⟩, -⟩ := replay_eq_halted h
    rfl

end Setup

/-! ## The last statement executed -/

namespace Setup

variable {setup : Setup} {program : List Statement} {m : Machine} {index cursor : Int}
  {signals : List Signal} {warnings : List Finding}

/-- A replay that gets to its cursor ends with the machine at the last statement that it counts. -/
theorem machineAt_index_of_replay
    (h : setup.replay program cursor = .ok (.done index m signals warnings)) :
    setup.machineAt program index = m := by
  have hrun := run_of_replay_eq_done h
  obtain ⟨sent, hdone⟩ := replay_eq_done_of_run hrun
  rw [h] at hdone
  obtain ⟨rfl, -⟩ := Outcome.done.inj (Except.ok.inj hdone)
  -- a cursor that counts as another one is replayed like that one
  have hupTo : upTo program (lastIndex program cursor) = upTo program cursor := by
    have hlast : lastIndex program (lastIndex program cursor) = lastIndex program cursor := by
      unfold lastIndex
      omega
    unfold upTo
    rw [hlast]
  rw [← hupTo] at hrun
  obtain ⟨_, hagain⟩ := replay_eq_done_of_run hrun
  exact machineAt_of_replay hagain

theorem supports_of_replay_last
    (h : setup.replay program ((program.length : Int) - 1) =
      .ok (.done index m signals warnings)) :
    ∀ s ∈ program, setup.supports s = true := by
  intro s hs
  obtain ⟨i, hi, rfl⟩ := List.getElem_of_mem hs
  exact supports_of_replay_eq_done h (List.getElem?_eq_getElem hi) (by omega)

end Setup

/-! ## Dry runs -/

namespace DryRun

open Lathe.Action

variable {run : DryRun} {text : String} {program : List Statement}

/-- A dry run that has read its program. -/
def begun (text : String) (program : List Statement) (run : DryRun) : DryRun :=
  { profile := run.profile, findings := Program.warnings text, program, text }

/-- A dry run with what its replay has found, and with the machine to be kept. -/
def concluded (succeeded : Bool) (findings : List Finding) (m : Machine) (run : DryRun) : DryRun :=
  { run with findings := run.findings ++ findings, machine := some m, path := m.path, succeeded }

/-- A dry run that has ended, given its program and the outcome of its replay. -/
def ended (text : String) (program : List Statement) (outcome : Outcome) (run : DryRun) : DryRun :=
  (run.begun text program).concluded outcome.error?.isNone
    (outcome.warnings ++ outcome.error?.toList) (run.setup.machineAt program outcome.index)

/-- What a dry run makes of the outcome of its replay. -/
def conclude (outcome : Outcome) : Action DryRun Bool := do
  note outcome.warnings
  match outcome with
  | .done _ machine _ _ => keep true (some machine)
  | .halted index error _ =>
    note [error]
    let fallback ← outcomeAt index
    keep false fallback.machine?

/-- What a dry run answers, and the dry run after it. A text that cannot be read has no program, and
a dry run that ends in a fault has no machine. -/
def processed (text : String) (cursor : Option Int) (run : DryRun) : Except Fault Bool × DryRun :=
  match Program.parse text with
  | .error fault => (.error fault, run.begun text [])
  | .ok program =>
    match run.setup.replay program (cursor.getD ((program.length : Int) - 1)) with
    | .error fault => (.error fault, run.begun text program)
    | .ok outcome => (.ok outcome.error?.isNone, run.ended text program outcome)

theorem result_process_of_parse {cursor : Option Int} (hparse : Program.parse text = .ok program)
    (run : DryRun) :
    (process text cursor).result run =
      (outcomeAt (cursor.getD ((program.length : Int) - 1)) >>= conclude).result
        (run.begun text program) := by
  unfold process
  rw [result_change_bind, hparse, result_bind_of_ok (result_ofExcept _ _), result_change_bind]
  rfl

theorem result_outcomeAt (cursor : Int) (run : DryRun) :
    (outcomeAt cursor).result run = (run.setup.replay run.program cursor, run) := rfl

theorem result_conclude_of_done (index : Int) (m : Machine) (signals : List Signal)
    (warnings : List Finding) (run : DryRun) :
    (conclude (.done index m signals warnings)).result run =
      (.ok true, run.concluded true warnings m) := rfl

theorem result_conclude_of_halted {index last : Int} {m : Machine} {signals : List Signal}
    {warnings remarks : List Finding} {error : Finding}
    (hbefore : run.setup.replay run.program index = .ok (.done last m signals remarks)) :
    (conclude (.halted index error warnings)).result run =
      (.ok false, run.concluded false (warnings ++ [error]) m) := by
  have houtcome := result_outcomeAt index
    { run with findings := run.findings ++ warnings ++ [error] }
  change _ = (run.setup.replay run.program index, _) at houtcome
  rw [hbefore] at houtcome
  unfold conclude note
  rw [result_change_bind]
  dsimp only [Outcome.warnings]
  rw [result_change_bind, result_bind_of_ok houtcome]
  unfold concluded
  rw [← List.append_assoc]
  rfl

/-- A dry run does what `processed` says. -/
theorem result_process (text : String) (cursor : Option Int) (run : DryRun) :
    (process text cursor).result run = run.processed text cursor := by
  unfold processed
  cases hparse : Program.parse text with
  | error fault =>
    unfold process
    rw [result_change_bind, hparse, result_bind_of_error (result_ofExcept _ _)]
    rfl
  | ok program =>
    rw [result_process_of_parse hparse]
    dsimp only
    have houtcome := result_outcomeAt (cursor.getD ((program.length : Int) - 1))
      (run.begun text program)
    change _ = (run.setup.replay program _, _) at houtcome
    cases hreplay : run.setup.replay program (cursor.getD ((program.length : Int) - 1)) with
    | error fault =>
      rw [hreplay] at houtcome
      exact result_bind_of_error houtcome
    | ok outcome =>
      rw [hreplay] at houtcome
      rw [result_bind_of_ok houtcome]
      unfold ended
      cases outcome with
      | done index m signals warnings =>
        have hkept : run.setup.machineAt program index = m :=
          Setup.machineAt_index_of_replay hreplay
        dsimp only [Outcome.index]
        rw [result_conclude_of_done, hkept]
        exact congrArg (fun remarks => (_, concluded true remarks m _)) (List.append_nil _).symm
      | halted index error warnings =>
        -- the second replay gets to the statement before the one at which the first one halted
        obtain ⟨b, s, m, signals, -, -, rfl, -, hbefore, -⟩ := Setup.replay_eq_halted hreplay
        have hbegun : (run.begun text program).setup.replay (run.begun text program).program
            (b - 1) = .ok (.done (b - 1) m signals warnings) := hbefore
        dsimp only [Outcome.index]
        rw [result_conclude_of_halted hbegun, Setup.machineAt_of_replay hbefore]
        rfl

theorem answer_process (text : String) (cursor : Option Int) (run : DryRun) :
    (process text cursor run).answer = (run.processed text cursor).1 :=
  congrArg Prod.fst (result_process text cursor run)

theorem state_process (text : String) (cursor : Option Int) (run : DryRun) :
    (process text cursor run).state = (run.processed text cursor).2 :=
  congrArg Prod.snd (result_process text cursor run)

/-- A dry run that answers has read its text and has made of the outcome of a replay what there is
to report. -/
theorem exists_outcome_of_process {cursor : Option Int} {succeeded : Bool}
    (h : (process text cursor run).answer = .ok succeeded) :
    ∃ program outcome, Program.parse text = .ok program ∧
      run.setup.replay program (cursor.getD ((program.length : Int) - 1)) = .ok outcome ∧
      succeeded = outcome.error?.isNone ∧
      (process text cursor run).state = run.ended text program outcome := by
  have hresult : run.processed text cursor = (.ok succeeded, (process text cursor run).state) := by
    rw [← result_process, result, h]
  generalize (process text cursor run).state = after at hresult ⊢
  unfold processed at hresult
  split at hresult
  next fault hparse => cases hresult
  next program hparse =>
    split at hresult
    next fault hreplay => cases hresult
    next outcome hreplay =>
      cases hresult
      exact ⟨program, outcome, hparse, hreplay, rfl, rfl⟩

/-- A dry run that ends in a fault has got no further than to read its text. -/
theorem exists_begun_of_process {cursor : Option Int} {fault : Fault}
    (h : (process text cursor run).answer = .error fault) :
    ∃ program, (process text cursor run).state = run.begun text program := by
  have hresult : run.processed text cursor = (.error fault, (process text cursor run).state) := by
    rw [← result_process, result, h]
  generalize (process text cursor run).state = after at hresult ⊢
  unfold processed at hresult
  split at hresult
  next reason hparse =>
    cases hresult
    exact ⟨[], rfl⟩
  next program hparse =>
    split at hresult
    next reason hreplay =>
      cases hresult
      exact ⟨program, rfl⟩
    next outcome hreplay => cases hresult

/-- The findings of a check of a program. -/
def checkOf (text : String) (program : List Statement) (run : DryRun) : List Finding :=
  Program.warnings text ++ program.filterMap run.setup.objection?

/-- A check looks at every statement, and changes nothing but its own findings. It ends in a fault
only if the text cannot be read. -/
theorem result_check (text : String) (run : DryRun) :
    (check text).result run =
      match Program.parse text with
      | .error fault => (.error fault, { run with checked := Program.warnings text })
      | .ok program =>
        (.ok (!Finding.anyFatal (run.checkOf text program)),
          { run with checked := run.checkOf text program }) := by
  unfold check
  rw [result_change_bind]
  cases Program.parse text with
  | error fault => rfl
  | ok program => rfl

end DryRun

end Lathe
