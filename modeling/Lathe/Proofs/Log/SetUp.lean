import Lathe.Log.Routing
import Lathe.Proofs.History
import Mathlib.Data.List.Nodup

/-!
# Setting up the loggers again and again

The loggers may be set up any number of times, also with a level that does not exist. Handlers are
only ever added at the end, first to the application and then to the engines, so whatever was asked
for, an engine has the first few handlers of the application, and each of them once. A set-up with a
level brings the engines up to the application; one without ends before it comes to the engines.

* `Hub.result_setUp_of_ok`, `Hub.result_setUp_of_error`: all that a set-up can do;
* `Hub.Wired`: what is true of the handlers all the time;
* `Hub.file?_after`: the file that is written to is the first one that was asked for in a set-up
  that answers;
* `Hub.handlers_attached_once`: all of this.
-/

namespace Lathe.Log

/-! ## Handlers of a logger -/

namespace Logger

variable {logger : Logger} {d : Destination} {ds : List Destination}

theorem destinations_add (logger : Logger) (d : Destination) :
    (logger.add d).destinations =
      if d ∈ logger.destinations then logger.destinations else logger.destinations ++ [d] := by
  rw [add]
  split <;> rfl

/-- Handlers that are there are not added again. -/
theorem foldl_add_of_subset (h : ds ⊆ logger.destinations) :
    ds.foldl (fun logger d => logger.add d) logger = logger := by
  induction ds with
  | nil => rfl
  | cons d rest ih =>
    obtain ⟨hd, hrest⟩ := List.cons_subset.mp h
    rw [List.foldl_cons, add, if_pos hd, ih hrest]

/-- Handlers that are not there are added in their order. -/
theorem destinations_foldl_add_of_nodup (h : (logger.destinations ++ ds).Nodup) :
    (ds.foldl (fun logger d => logger.add d) logger).destinations = logger.destinations ++ ds := by
  induction ds generalizing logger with
  | nil => exact (List.append_nil _).symm
  | cons d rest ih =>
    have hnew : d ∉ logger.destinations := fun hd =>
      List.disjoint_of_nodup_append h hd List.mem_cons_self
    have hadd : (logger.add d).destinations = logger.destinations ++ [d] := by
      rw [destinations_add, if_neg hnew]
    rw [List.foldl_cons, ih]
    · rw [hadd, List.append_assoc, List.singleton_append]
    · rwa [hadd, List.append_assoc, List.singleton_append]

/-- A logger that has the first few of some handlers gets the others. -/
theorem destinations_foldl_add (hinitial : logger.destinations <+: ds) (hnodup : ds.Nodup) :
    (ds.foldl (fun logger d => logger.add d) logger).destinations = ds := by
  obtain ⟨others, rfl⟩ := hinitial
  rw [List.foldl_append, foldl_add_of_subset (List.Subset.refl _),
    destinations_foldl_add_of_nodup hnodup]

end Logger

namespace Hub

open Lathe.Action

variable {hub : Hub} {d : Destination} {level : Level} {choice : LevelChoice}
  {path : Option String} {fault : Fault}

/-! ## The steps of a set-up -/

/-- The application takes all records, and has a handler for the console. -/
def prepared (hub : Hub) : Hub :=
  addHandler .console 0 { hub with application := hub.application.opened }

/-- The application has a handler for a file, if one is given and there was none before. -/
def withFile (path : Option String) (hub : Hub) : Hub :=
  match path with
  | some path => if hub.file?.isSome then hub else hub.addHandler (.file path) .debug
  | none => hub

/-- The hub after a set-up with a level. -/
def ready (level : Level) (path : Option String) (hub : Hub) : Hub :=
  ((hub.prepared.setLevel .console level).withFile path).connectEngines

/-- A set-up with a level answers. -/
theorem result_setUp_of_ok (h : choice.level = .ok level) (path : Option String) (hub : Hub) :
    (setUp choice path).result hub = (.ok (), hub.ready level path) := by
  rw [setUp, h, result_change_bind, result_change_bind, result_bind_of_ok (result_ofExcept _ _),
    result_change_bind]
  cases path <;> rfl

/-- A set-up without a level ends after the application has got a handler for the console. -/
theorem result_setUp_of_error (h : choice.level = .error fault) (path : Option String)
    (hub : Hub) : (setUp choice path).result hub = (.error fault, hub.prepared) := by
  rw [setUp, h, result_change_bind, result_change_bind,
    result_bind_of_error (result_ofExcept _ _)]
  rfl

/-! ## What is true of the handlers all the time -/

/-- The application has no handler twice and at most one for a file, the handlers that exist are
those of the application, and an engine has the first few of them. -/
structure Wired (hub : Hub) : Prop where
  nodup : hub.application.destinations.Nodup
  length_files_le : (hub.application.destinations.filter (·.isFile)).length ≤ 1
  handlers_eq : hub.handlers.map Prod.fst = hub.application.destinations
  engine_prefix : ∀ e, (hub.engine e).destinations <+: hub.application.destinations

theorem wired_empty : ({} : Hub).Wired :=
  ⟨List.nodup_nil, Nat.zero_le 1, rfl, fun _ => List.prefix_rfl⟩

theorem destinations_addHandler (hub : Hub) (d : Destination) (level : Level) :
    (hub.addHandler d level).application.destinations =
      if d ∈ hub.application.destinations then hub.application.destinations
      else hub.application.destinations ++ [d] := by
  rw [addHandler]
  split
  next => rfl
  next hnew => exact (hub.application.destinations_add d).trans (if_neg hnew)

@[simp]
theorem engine_addHandler (hub : Hub) (d : Destination) (level : Level) :
    (hub.addHandler d level).engine = hub.engine := by
  rw [addHandler]
  split <;> rfl

theorem engine_prepared (hub : Hub) : hub.prepared.engine = hub.engine :=
  engine_addHandler _ _ _

/-- The files among the handlers of the application, of which the first one is written to. -/
theorem head?_files (hub : Hub) :
    (hub.application.destinations.filter (·.isFile)).head? = hub.file? :=
  List.head?_filter

theorem Wired.addHandler (h : hub.Wired) (hfile : d.isFile = true → hub.file? = none) :
    (hub.addHandler d level).Wired := by
  by_cases hd : d ∈ hub.application.destinations
  · rwa [Hub.addHandler, if_pos hd]
  · have hdestinations := hub.destinations_addHandler d level
    rw [if_neg hd] at hdestinations
    constructor
    · rw [hdestinations, List.nodup_append]
      refine ⟨h.nodup, List.nodup_singleton d, ?_⟩
      rintro other hother _ hmem rfl
      exact hd (List.mem_singleton.mp hmem ▸ hother)
    · rw [hdestinations, List.filter_append, List.length_append]
      -- a file is only added where there is none
      cases hisFile : d.isFile with
      | false => simpa [hisFile] using h.length_files_le
      | true =>
        have hnone := hub.head?_files.trans (hfile hisFile)
        rw [List.head?_eq_none_iff.mp hnone, List.length_nil, Nat.zero_add]
        exact List.length_filter_le _ [d]
    · rw [hdestinations, ← h.handlers_eq, Hub.addHandler, if_neg hd, List.map_append]
      rfl
    · intro e
      rw [hdestinations, engine_addHandler]
      exact (h.engine_prefix e).trans (List.prefix_append _ _)

theorem Wired.setLevel (h : hub.Wired) : (hub.setLevel d level).Wired := by
  refine ⟨h.nodup, h.length_files_le, ?_, h.engine_prefix⟩
  rw [Hub.setLevel, List.map_map, ← h.handlers_eq]
  refine List.map_congr_left fun handler _ => ?_
  simp only [Function.comp_apply]
  split
  next heq => exact heq.symm
  next => rfl

theorem Wired.prepared (h : hub.Wired) : hub.prepared.Wired := by
  have hopened : Wired { hub with application := hub.application.opened } :=
    ⟨h.nodup, h.length_files_le, h.handlers_eq, h.engine_prefix⟩
  exact hopened.addHandler nofun

theorem Wired.withFile (h : hub.Wired) : (hub.withFile path).Wired := by
  cases path with
  | none => exact h
  | some path =>
    rw [Hub.withFile]
    split
    next => exact h
    next hnone => exact h.addHandler fun _ => Option.not_isSome_iff_eq_none.mp hnone

/-- The engines have all handlers of the application. -/
theorem Wired.engine_connectEngines (h : hub.Wired) (e : Engine) :
    (hub.connectEngines.engine e).destinations = hub.application.destinations :=
  Logger.destinations_foldl_add (h.engine_prefix e) h.nodup

theorem Wired.connectEngines (h : hub.Wired) : hub.connectEngines.Wired := by
  refine ⟨h.nodup, h.length_files_le, h.handlers_eq, fun e => ?_⟩
  rw [h.engine_connectEngines e]
  exact List.prefix_rfl

theorem Wired.ready (h : hub.Wired) : (hub.ready level path).Wired :=
  h.prepared.setLevel.withFile.connectEngines

/-! ## The level of the console -/

/-- A handler that exists keeps its level when another one is added. -/
theorem lookup_addHandler_of_eq_some {other : Destination} {old : Level}
    (h : hub.handlers.lookup other = some old) :
    (hub.addHandler d level).handlers.lookup other = some old := by
  rw [addHandler]
  split
  next => exact h
  next => rw [List.lookup_append, h, Option.some_or]

theorem lookup_prepared_of_eq_some {old : Level} (h : hub.handlers.lookup .console = some old) :
    hub.prepared.handlers.lookup .console = some old := by
  apply lookup_addHandler_of_eq_some
  exact h

theorem Wired.lookup_setLevel (h : hub.Wired) (hd : d ∈ hub.application.destinations) :
    (hub.setLevel d level).handlers.lookup d = some level := by
  rw [← h.handlers_eq] at hd
  rw [Hub.setLevel]
  dsimp only
  generalize hub.handlers = handlers at hd
  induction handlers with
  | nil => cases hd
  | cons handler rest ih =>
    rw [List.map_cons, List.lookup_cons]
    by_cases heq : handler.1 = d
    · simp [heq]
    · have hrest : d ∈ rest.map Prod.fst :=
        (List.mem_cons.mp hd).resolve_left (Ne.symm heq)
      rw [if_neg heq, beq_false_of_ne (Ne.symm heq)]
      exact ih hrest

theorem console_mem_prepared (hub : Hub) : .console ∈ hub.prepared.application.destinations := by
  rw [prepared, destinations_addHandler]
  split
  next hmem => exact hmem
  next => exact List.mem_append_right _ List.mem_cons_self

/-- The console has the level of the last set-up that answers. -/
theorem Wired.lookup_ready (h : hub.Wired) :
    (hub.ready level path).handlers.lookup .console = some level := by
  have hlevel : (hub.prepared.setLevel .console level).handlers.lookup .console = some level :=
    h.prepared.lookup_setLevel hub.console_mem_prepared
  change ((hub.prepared.setLevel .console level).withFile path).handlers.lookup .console = _
  cases path with
  | none => exact hlevel
  | some path =>
    rw [Hub.withFile]
    split
    next => exact hlevel
    next => exact lookup_addHandler_of_eq_some hlevel

/-! ## The file -/

@[simp]
theorem file?_prepared (hub : Hub) : hub.prepared.file? = hub.file? := by
  rw [file?, prepared, destinations_addHandler]
  split
  next => rfl
  next => exact (List.find?_append).trans (Option.or_none)

theorem file?_withFile (hub : Hub) (path : Option String) :
    (hub.withFile path).file? = hub.file?.or (path.map .file) := by
  cases path with
  | none => exact Option.or_none.symm
  | some path =>
    rw [withFile]
    cases hfile : hub.file? with
    | some file => simp [hfile]
    | none =>
      have hnew : Destination.file path ∉ hub.application.destinations := by
        intro hmem
        simpa [Destination.isFile] using List.find?_eq_none.mp hfile _ hmem
      rw [Option.isSome_none, if_neg Bool.false_ne_true, file?, destinations_addHandler,
        if_neg hnew, List.find?_append, ← file?, hfile]
      rfl

theorem file?_ready (hub : Hub) (level : Level) (path : Option String) :
    (hub.ready level path).file? = hub.file?.or (path.map .file) := by
  rw [← file?_prepared hub]
  exact file?_withFile _ path

/-! ## Histories -/

/-- A set-up: the level that is asked for, and the path of a file. -/
structure Call where
  choice : LevelChoice
  path : Option String := none

/-- The action of a set-up. -/
def perform (call : Call) : Action Hub Unit :=
  setUp call.choice call.path

/-- The set-ups of a history, one after the other. -/
abbrev CallStep := Step Hub Call Unit

/-- The file that a set-up asked for, if it has answered. -/
def fileOf? (step : CallStep) : Option String :=
  if step.answer.toBool then step.event.path else none

/-- What a set-up has brought about. -/
structure Settles (step : CallStep) : Prop where
  /-- It answers exactly if there is such a level. -/
  answer_eq : step.answer = step.event.choice.level.map fun _ => ()
  /-- If it answers, the engines have the handlers of the application, and the console has the
  level. -/
  of_ok : ∀ level, step.event.choice.level = .ok level →
    (∀ e, (step.after.engine e).destinations = step.after.application.destinations) ∧
    step.after.handlers.lookup .console = some level
  /-- If it ends in a fault, the engines have the handlers that they had, and so does the console
  its level. -/
  of_error : ∀ fault, step.event.choice.level = .error fault →
    (∀ e, (step.after.engine e).destinations = (step.before.engine e).destinations) ∧
    ∀ level, step.before.handlers.lookup .console = some level →
      step.after.handlers.lookup .console = some level

theorem settles_perform (h : hub.Wired) (call : Call) :
    Settles ⟨hub, call, (perform call hub).answer, (perform call hub).state⟩ := by
  cases hlevel : call.choice.level with
  | ok level =>
    obtain ⟨hanswer, hstate⟩ := Prod.mk.inj (result_setUp_of_ok hlevel call.path hub)
    constructor
    · simp only [perform, hanswer, hlevel, Except.map]
    · rintro _ hok
      obtain rfl := Except.ok.inj (hlevel.symm.trans hok)
      simp only [perform, hstate]
      exact ⟨h.prepared.setLevel.withFile.engine_connectEngines, h.lookup_ready⟩
    · rintro fault herror
      cases hlevel.symm.trans herror
  | error fault =>
    obtain ⟨hanswer, hstate⟩ := Prod.mk.inj (result_setUp_of_error hlevel call.path hub)
    constructor
    · simp only [perform, hanswer, hlevel, Except.map]
    · rintro level hok
      cases hlevel.symm.trans hok
    · intro _ _
      simp only [perform, hstate]
      exact ⟨fun e => by rw [engine_prepared], fun level => lookup_prepared_of_eq_some⟩

theorem Wired.perform (h : hub.Wired) (call : Call) : (perform call hub).state.Wired := by
  cases hlevel : call.choice.level with
  | ok level =>
    rw [show (Hub.perform call hub).state = _ from
      final_of_result (result_setUp_of_ok hlevel call.path hub)]
    exact h.ready
  | error fault =>
    rw [show (Hub.perform call hub).state = _ from
      final_of_result (result_setUp_of_error hlevel call.path hub)]
    exact h.prepared

/-- Every set-up of a history finds the handlers in order, and settles what it should. -/
theorem Wired.settles_steps (h : hub.Wired) (calls : List Call) :
    ∀ step ∈ steps Hub.perform hub calls, Settles step := by
  induction calls generalizing hub with
  | nil => exact List.forall_mem_nil _
  | cons call rest ih =>
    rw [steps, List.forall_mem_cons]
    exact ⟨settles_perform h call, ih (h.perform call)⟩

/-- A file is only taken from a set-up that answers, and only if there is none. -/
theorem file?_perform (hub : Hub) (call : Call) :
    (perform call hub).state.file? =
      hub.file?.or ((fileOf? ⟨hub, call, (perform call hub).answer, (perform call hub).state⟩).map
        .file) := by
  cases hlevel : call.choice.level with
  | ok level =>
    obtain ⟨hanswer, hstate⟩ := Prod.mk.inj (result_setUp_of_ok hlevel call.path hub)
    simp only [perform, fileOf?, hanswer, hstate, file?_ready, Except.toBool, ↓reduceIte]
  | error fault =>
    obtain ⟨hanswer, hstate⟩ := Prod.mk.inj (result_setUp_of_error hlevel call.path hub)
    simp [perform, fileOf?, hanswer, hstate, Except.toBool]

/-- The file that is written to is the first one that was asked for in a set-up that answers. -/
theorem file?_after (hub : Hub) (calls : List Call) :
    (after perform hub calls).file? =
      hub.file?.or (((steps perform hub calls).findSome? fileOf?).map .file) := by
  induction calls generalizing hub with
  | nil => exact Option.or_none.symm
  | cons call rest ih =>
    rw [after, ih, file?_perform, steps, List.findSome?_cons, Option.or_assoc]
    congr 1
    cases fileOf? ⟨hub, call, (perform call hub).answer, (perform call hub).state⟩ <;> rfl

/-- Let loggers without handlers be set up any number of times, with any levels and any files. At
the end, the application has at most one handler for the console and at most one for a file, no
engine has a handler twice or one that the application lacks, and the file is the first one that was
asked for in a set-up that answers. After each set-up that answers, the engines have exactly the
handlers of the application, and the console has the level that was asked for. A set-up without a
level, which ends in a fault, changes neither the level of the console nor the handlers of the
engines. -/
theorem handlers_attached_once (calls : List Call) :
    let hub := after perform {} calls
    let history := steps perform {} calls
    hub.application.destinations.count .console ≤ 1 ∧
    (hub.application.destinations.filter (·.isFile)).length ≤ 1 ∧
    (∀ e, (hub.engine e).destinations.Nodup ∧
      (hub.engine e).destinations ⊆ hub.application.destinations) ∧
    hub.file? = (history.findSome? fileOf?).map .file ∧
    ∀ step ∈ history, Settles step := by
  intro hub history
  have hwired : hub.Wired := invariant_after (fun _ call h => h.perform call) wired_empty calls
  refine ⟨List.nodup_iff_count_le_one.mp hwired.nodup .console, hwired.length_files_le,
    fun e => ⟨?_, (hwired.engine_prefix e).subset⟩, ?_, wired_empty.settles_steps calls⟩
  · exact hwired.nodup.sublist (hwired.engine_prefix e).sublist
  · rw [file?_after]
    rfl

/-- A set-up with a level that does not exist, one with a file, one with another file, and one more
that fails. -/
def mixedCalls : List Call := [
  ⟨.name "NOPE", some "first.log"⟩, ⟨.name "WARNING", some "second.log"⟩,
  ⟨.number 10, some "third.log"⟩, ⟨.name "debug", none⟩]

/-- The first set-up leaves the console attached to the application only. In the end the console has
the level of the third one, and the file is that of the second one. -/
theorem handlers_attached_once_mixedCalls :
    let hub := after perform {} mixedCalls
    ((steps perform {} mixedCalls).map (·.answer.toBool) = [false, true, true, false]) ∧
    hub.file? = some (.file "second.log") ∧
    hub.handlers.lookup .console = some 10 ∧
    ∀ e, (hub.engine e).destinations = [.console, .file "second.log"] := by
  intro hub
  obtain ⟨-, -, -, hfile, hsettles⟩ := handlers_attached_once mixedCalls
  simp only [mixedCalls, steps, List.forall_mem_cons] at hsettles
  obtain ⟨-, -, hthird, hfourth, -⟩ := hsettles
  obtain ⟨hengines, hconsole⟩ := hthird.of_ok 10 rfl
  obtain ⟨hkept, hlevel⟩ := hfourth.of_error (.unknownLevel "debug") rfl
  refine ⟨by decide +kernel, hfile.trans (by decide +kernel), hlevel 10 hconsole, fun e => ?_⟩
  exact (hkept e).trans ((hengines e).trans (by decide +kernel))

end Hub

end Lathe.Log
