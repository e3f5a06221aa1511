import Lathe.Proofs.Wear.Account
import Mathlib.Data.List.Basic

/-!
# Instalments of wear

The meter writes wear to the tool table in instalments. A move that counts adds to what is gathered;
the one with which that passes the threshold writes all of it, and the meter begins anew. So the
moves that count, in their order, are divided into the instalments that were written and the
remainder that is still gathered: nothing is lost, and nothing is written twice. Whether a move
counts depends on the instalments before it, since a tool that is worn out does not wear any more.

Sums are taken from left to right, in floating point. A sum passes the threshold if it is not at
most the threshold; so one that is not a number does, whatever the threshold.

* `WearAccount.Entry.cases`: all that the meter can do about a move;
* `WearAccount.Entry.writes`: a move changes the wear of its tool by what it writes, and nothing
  else;
* `WearAccount.exists_division`: the moves of a run that count are divided into instalments;
* `WearAccount.written_in_instalments`: all of this for a meter that has gathered nothing.
-/

namespace Lathe

namespace ToolTable

/-- Setting the wear of a tool that is there is counted. -/
theorem revision_setWear {table : ToolTable} {id : Int} {percent : Float}
    (h : table.contains id = true) :
    (table.setWear id percent).revision = table.revision + 1 := by
  rw [setWear, if_pos h]

/-- The tools after the wear of one of them was set. -/
theorem get?_setWear_of_get? {table : ToolTable} {id : Int} {tool : Tool}
    (h : table.get? id = some tool) (percent : Float) (number : Int) :
    (table.setWear id percent).get? number =
      if number = id then some { tool with wear := clampWear percent } else table.get? number := by
  rw [get?_setWear]
  by_cases hnumber : number = id
  · rw [if_pos hnumber, hnumber, h, Option.map_some, if_pos (id_of_get? h)]
  · rw [if_neg hnumber]
    cases hget : table.get? number with
    | none => rfl
    | some other => rw [Option.map_some, if_neg (id_of_get? hget ▸ hnumber)]

end ToolTable

namespace WearAccount

/-! ## Passes -/

/-- A move as the meter is told of it: where it began, the machine at its end, and what is cut. -/
structure Pass where
  start : Point Float
  machine : Machine
  material : Material

/-- The wear that a pass causes, in percent. -/
def Pass.amount (rate : Float) (p : Pass) : Float :=
  WearMeter.distance p.start p.machine * p.material.hardness * rate

/-- A pass of a run, and the account as it was before. -/
structure Entry where
  account : WearAccount
  pass : Pass

namespace Entry

/-- The tool of the pass. -/
def tool (e : Entry) : Int :=
  e.pass.machine.tool

/-- Whether the pass counts: the spindle turns and the last move was a cut, it is not too short, it
does not end outside of the stock, and its tool is there and not worn out at that time. -/
def counts (stockDiameter : Float) (e : Entry) : Bool :=
  -- negated comparisons: whatever is not a number is no reason against the pass
  e.pass.machine.isCutting &&
    !decide (WearMeter.distance e.pass.start e.pass.machine ≤ WearMeter.shortestMove) &&
    !decide (stockDiameter + 1.0 < e.pass.machine.position.x) &&
    (e.account.tools.wear e.tool).any fun wear => !decide (100.0 ≤ wear)

/-- The account after the pass. -/
def after (e : Entry) : WearAccount :=
  e.account.charge e.pass.start e.pass.machine e.pass.material

/-- What the pass has written to the tool table. -/
def delta? (e : Entry) : Option WearDelta :=
  (e.account.meter.update e.account.tools e.pass.start e.pass.machine e.pass.material).2.2

end Entry

/-- The passes of a run, each with the account that it finds. -/
def entries (a : WearAccount) : List Pass → List Entry
  | [] => []
  | p :: rest => ⟨a, p⟩ :: (Entry.mk a p).after.entries rest

/-- The account at the end of a run. -/
def settle (a : WearAccount) : List Pass → WearAccount
  | [] => a
  | p :: rest => (Entry.mk a p).after.settle rest

/-! ## One pass -/

namespace Entry

variable {rate threshold stockDiameter pending : Float}

/-- All that the meter can do about a pass: nothing, if it does not count; gather its amount, if
what is gathered stays within the threshold; or write what is gathered to the tool of the pass. -/
theorem cases {e : Entry} (h : e.account.meter = ⟨rate, threshold, stockDiameter, pending⟩) :
    let sum := pending + e.pass.amount rate
    (e.counts stockDiameter = false ∧ e.delta? = none ∧ e.after = e.account) ∨
    (e.counts stockDiameter = true ∧ sum ≤ threshold ∧ e.delta? = none ∧
      e.after = ⟨⟨rate, threshold, stockDiameter, sum⟩, e.account.tools⟩) ∨
    (e.counts stockDiameter = true ∧ ¬sum ≤ threshold ∧
      ∃ tool, e.account.tools.get? e.tool = some tool ∧
        e.delta? = some ⟨e.tool, sum, clampWear (tool.wear + sum)⟩ ∧
        e.after = ⟨⟨rate, threshold, stockDiameter, 0.0⟩,
          e.account.tools.setWear e.tool (tool.wear + sum)⟩) := by
  intro sum
  -- whether the pass counts is whether the meter finds a tool that it wears
  have hcounts : e.account.charges e.pass.start e.pass.machine = e.counts stockDiameter := by
    rw [WearAccount.charges_eq, h]
    rfl
  simp only [WearAccount.charges] at hcounts
  simp only [delta?, after, WearAccount.charge, WearMeter.update]
  cases hworn : e.account.meter.wornTool? e.account.tools e.pass.start e.pass.machine with
  | none =>
    rw [hworn] at hcounts
    exact .inl ⟨hcounts.symm, rfl, rfl⟩
  | some tool =>
    rw [hworn] at hcounts
    have hget := WearMeter.get?_of_wornTool? hworn
    have hid : tool.id = e.tool := ToolTable.id_of_get? hget
    have hsum : e.account.meter.pending + WearMeter.distance e.pass.start e.pass.machine *
        e.pass.material.hardness * e.account.meter.rate = sum := by
      rw [h]
      rfl
    dsimp only
    rw [hsum, hid, h]
    -- a sum that cannot be compared with the threshold counts as one that passes it
    by_cases hle : sum ≤ threshold
    · rw [if_pos hle]
      exact .inr (.inl ⟨hcounts.symm, hle, rfl, rfl⟩)
    · rw [if_neg hle]
      exact .inr (.inr ⟨hcounts.symm, hle, tool, hget, rfl, rfl⟩)

/-- What a pass writes, and what becomes of the tools. Without a delta they stay as they are. With
one, the wear of the tool of the pass is what it was and the increment, within its bounds, and this
is the only change; it is counted as one. -/
structure Writes (e : Entry) : Prop where
  tools_eq : e.delta? = none → e.after.tools = e.account.tools
  of_delta : ∀ delta, e.delta? = some delta →
    ∃ tool, e.account.tools.get? e.tool = some tool ∧ delta.tool = e.tool ∧
      delta.wear = clampWear (tool.wear + delta.increment) ∧
      e.after.tools.revision = e.account.tools.revision + 1 ∧
      ∀ id, e.after.tools.get? id =
        if id = e.tool then some { tool with wear := delta.wear } else e.account.tools.get? id

/-- Every pass writes as it should. -/
theorem writes (e : Entry) : e.Writes := by
  obtain ⟨-, hdelta, hafter⟩ | ⟨-, -, hdelta, hafter⟩ | ⟨-, -, tool, hget, hdelta, hafter⟩ :=
    cases (e := e) rfl
  · exact ⟨fun _ => by rw [hafter], fun delta h => by simp [hdelta] at h⟩
  · exact ⟨fun _ => by rw [hafter], fun delta h => by simp [hdelta] at h⟩
  · refine ⟨fun h => by simp [hdelta] at h, fun delta h => ?_⟩
    rw [hdelta, Option.some.injEq] at h
    subst h
    refine ⟨tool, hget, rfl, rfl, ?_, ?_⟩
    · rw [hafter]
      exact ToolTable.revision_setWear (by simp [ToolTable.contains, hget])
    · intro id
      rw [hafter]
      exact ToolTable.get?_setWear_of_get? hget _ id

end Entry

/-! ## Instalments -/

/-- The wear of some passes, added up from left to right. -/
def total (rate : Float) (entries : List Entry) : Float :=
  entries.foldl (fun sum e => sum + e.pass.amount rate) 0.0

/-- Passes whose wear is only gathered: none of them writes anything, and after each of them the
wear of those so far is within the threshold. -/
structure Gathering (rate threshold : Float) (entries : List Entry) : Prop where
  delta_eq_none : ∀ e ∈ entries, e.delta? = none
  total_le : ∀ first, first <+: entries → first ≠ [] → total rate first ≤ threshold

/-- Passes whose wear is gathered, and the one that writes it together with its own. -/
structure Instalment where
  gathered : List Entry
  closing : Entry

namespace Instalment

/-- All passes of an instalment. -/
def entries (i : Instalment) : List Entry :=
  i.gathered ++ [i.closing]

/-- What an instalment has written to the tool table. -/
def delta? (i : Instalment) : Option WearDelta :=
  i.closing.delta?

/-- An instalment is settled by its last pass. The wear of all its passes is what that one writes to
its tool, and with none of the others the wear has passed the threshold. -/
structure Settled (rate threshold : Float) (i : Instalment) : Prop where
  gathering : Gathering rate threshold i.gathered
  not_total_le : ¬total rate i.entries ≤ threshold
  delta_eq : ∃ wear, i.delta? = some ⟨i.closing.tool, total rate i.entries, wear⟩

end Instalment

/-- Some passes, one after the other, are divided into instalments that are settled and a remainder
that is gathered. -/
structure Division (rate threshold : Float) (entries : List Entry) (instalments : List Instalment)
    (remainder : List Entry) : Prop where
  entries_eq : entries = instalments.flatMap Instalment.entries ++ remainder
  settled : ∀ i ∈ instalments, i.Settled rate threshold
  gathering : Gathering rate threshold remainder

variable {rate threshold stockDiameter : Float} {e : Entry}
  {gathered entries remainder : List Entry} {instalments : List Instalment}

theorem total_append_singleton (rate : Float) (gathered : List Entry) (e : Entry) :
    total rate (gathered ++ [e]) = total rate gathered + e.pass.amount rate := by
  simp [total]

theorem gathering_nil : Gathering rate threshold [] :=
  ⟨List.forall_mem_nil _, fun _ hprefix hne => absurd (List.prefix_nil.mp hprefix) hne⟩

/-- One more pass is gathered, if it writes nothing and the sum stays within the threshold. -/
theorem Gathering.append_singleton (h : Gathering rate threshold gathered)
    (hdelta : e.delta? = none) (hle : total rate (gathered ++ [e]) ≤ threshold) :
    Gathering rate threshold (gathered ++ [e]) := by
  constructor
  · simpa [or_imp, forall_and, hdelta] using h.delta_eq_none
  · intro first hprefix hne
    rcases List.prefix_concat_iff.mp hprefix with rfl | hprefix
    · exact hle
    · exact h.total_le first hprefix hne

/-- One more instalment before the others. -/
theorem Division.cons {i : Instalment} (hi : i.Settled rate threshold)
    (h : Division rate threshold entries instalments remainder) :
    Division rate threshold (i.entries ++ entries) (i :: instalments) remainder := by
  refine ⟨?_, List.forall_mem_cons.mpr ⟨hi, h.settled⟩, h.gathering⟩
  rw [h.entries_eq, List.flatMap_cons, List.append_assoc]

/-! ## A run -/

/-- The passes of a run that count are divided into instalments, if those that were gathered before
are taken with the first of them. -/
theorem exists_division {a : WearAccount}
    (hmeter : a.meter = ⟨rate, threshold, stockDiameter, total rate gathered⟩)
    (hgathered : Gathering rate threshold gathered) (passes : List Pass) :
    ∃ instalments remainder,
      Division rate threshold
        (gathered ++ (a.entries passes).filter (Entry.counts stockDiameter)) instalments
        remainder ∧
      (a.entries passes).filterMap Entry.delta? = instalments.filterMap Instalment.delta? ∧
      (a.settle passes).meter.pending = total rate remainder := by
  -- what is gathered when a pass begins is the open instalment, so it has to be generalized
  induction passes generalizing a gathered with
  | nil =>
    refine ⟨[], gathered, ⟨List.append_nil _, List.forall_mem_nil _, hgathered⟩, rfl, ?_⟩
    show a.meter.pending = _
    rw [hmeter]
  | cons p rest ih =>
    let e : Entry := ⟨a, p⟩
    rw [entries, settle]
    obtain ⟨hcounts, hdelta, hafter⟩ | ⟨hcounts, hle, hdelta, hafter⟩ |
        ⟨hcounts, hle, _, -, hdelta, hafter⟩ := Entry.cases (e := e) hmeter
    · -- a pass that does not count leaves everything as it is
      rw [hafter, List.filter_cons_of_neg (by simp [e, hcounts]), List.filterMap_cons_none hdelta]
      exact ih hmeter hgathered
    · -- the pass is gathered with those before it
      rw [← total_append_singleton] at hle hafter
      have hnext := ih (congrArg meter hafter) (hgathered.append_singleton hdelta hle)
      rw [List.filter_cons_of_pos hcounts, List.filterMap_cons_none hdelta]
      rwa [List.append_assoc] at hnext
    · -- the pass settles an instalment, and the meter begins anew
      rw [← total_append_singleton] at hle hdelta hafter
      obtain ⟨instalments, remainder, hdivision, hdeltas, hpending⟩ :=
        ih (congrArg meter hafter) gathering_nil
      have hsettled : Instalment.Settled rate threshold ⟨gathered, e⟩ :=
        ⟨hgathered, hle, _, hdelta⟩
      refine ⟨⟨gathered, e⟩ :: instalments, remainder, ?_, ?_, hpending⟩
      · rw [List.filter_cons_of_pos hcounts]
        have hcons := hdivision.cons hsettled
        rwa [Instalment.entries, List.append_assoc] at hcons
      · have hwritten : Instalment.delta? ⟨gathered, e⟩ = some _ := hdelta
        rw [List.filterMap_cons_some hdelta, List.filterMap_cons_some hwritten, hdeltas]

/-- Nothing is lost, and nothing is charged twice. Let a meter that has gathered nothing be told of
any number of passes. Those that count, in their order, are divided into the instalments that were
written, each by its last pass and once the sum has passed the threshold, and a remainder, which is
what is gathered at the end. Each delta that is returned is that of an instalment, and the tools
change with the deltas only: the tool of the pass is worn by the increment, and the table counts
one change. -/
theorem written_in_instalments (rate threshold stockDiameter : Float) (tools : ToolTable)
    (passes : List Pass) :
    let a : WearAccount := ⟨{ rate, threshold, stockDiameter }, tools⟩
    (∃ instalments remainder,
      Division rate threshold ((a.entries passes).filter (Entry.counts stockDiameter)) instalments
        remainder ∧
      (a.entries passes).filterMap Entry.delta? = instalments.filterMap Instalment.delta? ∧
      (a.settle passes).meter.pending = total rate remainder) ∧
    ∀ e ∈ a.entries passes, e.Writes := by
  intro a
  exact ⟨exists_division rfl gathering_nil passes, fun e _ => e.writes⟩

end WearAccount

end Lathe
