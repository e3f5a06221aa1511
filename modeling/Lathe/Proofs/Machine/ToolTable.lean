import Lathe.Proofs.Replay.Geometry
import Mathlib.Data.List.Induction

/-!
# What the tool table keeps

A tool table is made from a list of tools, in which numbers may repeat, and is changed by setting
the wear of tools and by making them as good as new. Whatever was done, it can be said from the list
and the calls alone what it holds: of each number the last tool of the list, with the wear that the
last call has given to it.

* `ToolTable.get?_ofList`: of the tools of one number, the last one counts;
* `ToolTable.get?_after`: what is found under a number after some calls;
* `ToolTable.increasing_after`: the tools stay in strictly increasing order of their numbers;
* `ToolTable.revision_after`: the calls that are counted are those that name a tool;
* `clampWear_mem`: wear that was set lies between 0 and 100, also where it was set to an infinity or
  to what is not a number;
* `ToolTable.determined_by_history`: all of this.
-/

namespace Lathe

/-! ## Bounds of wear -/

theorem Number.le_of_lt {a b : Float} (h : a < b) : a ≤ b := by
  have hlt : a.toModel.unpack.lt b.toModel.unpack = true := of_decide_eq_true h
  have hcompare : a.toModel.unpack.compare b.toModel.unpack = some .lt := beq_iff_eq.mp hlt
  refine decide_eq_true (?_ : a.toModel.unpack.le b.toModel.unpack = true)
  rw [Float.Model.UnpackedFloat.le, hcompare]
  rfl

/-- Wear that is set lies between 0 and 100, whatever it is set to. -/
theorem clampWear_mem (percent : Float) : 0.0 ≤ clampWear percent ∧ clampWear percent ≤ 100.0 := by
  have hbelow : Number.leastOf 100.0 percent ≤ 100.0 := by
    unfold Number.leastOf
    split
    next hlt => exact Number.le_of_lt hlt
    next => decide +kernel
  unfold clampWear Number.greatestOf
  split
  next hlt => exact ⟨Number.le_of_lt hlt, hbelow⟩
  next => exact ⟨by decide +kernel, by decide +kernel⟩

namespace ToolTable

variable {table : ToolTable} {tools : List Tool} {tool : Tool} {number : Int}

/-! ## Tables made from a list -/

/-- The tools are in strictly increasing order of their numbers. -/
def Increasing (tools : List Tool) : Prop :=
  tools.Pairwise fun t u => t.id < u.id

theorem mem_insert {t : Tool} (h : t ∈ insert tool tools) : t = tool ∨ t ∈ tools := by
  fun_induction insert tool tools with
  | case1 => exact .inl (List.mem_singleton.mp h)
  | case2 u rest hlt => exact List.mem_cons.mp h
  | case3 u rest hlt heq =>
    exact (List.mem_cons.mp h).imp_right (List.mem_cons_of_mem u)
  | case4 u rest hlt heq ih =>
    rcases List.mem_cons.mp h with rfl | h
    · exact .inr List.mem_cons_self
    · exact (ih h).imp_right (List.mem_cons_of_mem u)

theorem increasing_insert (h : Increasing tools) : Increasing (insert tool tools) := by
  unfold Increasing at *
  fun_induction insert tool tools with
  | case1 => exact List.pairwise_singleton _ _
  | case2 u rest hlt =>
    refine .cons (fun t ht => ?_) h
    rcases List.mem_cons.mp ht with rfl | ht
    · exact hlt
    · exact Int.lt_trans hlt (List.rel_of_pairwise_cons h ht)
  | case3 u rest hlt heq =>
    refine .cons (fun t ht => ?_) h.of_cons
    rw [heq]
    exact List.rel_of_pairwise_cons h ht
  | case4 u rest hlt heq ih =>
    refine .cons (fun t ht => ?_) (ih h.of_cons)
    rcases mem_insert ht with rfl | ht
    · omega
    · exact List.rel_of_pairwise_cons h ht

theorem find?_insert (tool : Tool) (tools : List Tool) (id : Int) :
    (insert tool tools).find? (fun t => decide (t.id = id)) =
      if tool.id = id then some tool else tools.find? fun t => decide (t.id = id) := by
  fun_induction insert tool tools with
  | case1 => grind
  | case2 u rest hlt => grind
  | case3 u rest hlt heq => grind
  | case4 u rest hlt heq ih => grind

theorem tools_ofList_append (tools : List Tool) (tool : Tool) :
    (ofList (tools ++ [tool])).tools = insert tool (ofList tools).tools := by
  unfold ofList
  rw [List.foldl_append]
  rfl

/-- A table is in order from the beginning. -/
theorem increasing_ofList (tools : List Tool) : Increasing (ofList tools).tools := by
  induction tools using List.reverseRecOn with
  | nil => exact .nil
  | append_singleton tools tool ih =>
    rw [tools_ofList_append]
    exact increasing_insert ih

/-- Of the tools of one number, the last one counts. -/
theorem get?_ofList (tools : List Tool) (id : Int) :
    (ofList tools).get? id = tools.findRev? fun t => decide (t.id = id) := by
  unfold get?
  induction tools using List.reverseRecOn with
  | nil => rfl
  | append_singleton tools tool ih =>
    rw [tools_ofList_append, find?_insert, ih]
    simp only [List.findRev?_eq_find?_reverse, List.reverse_append, List.reverse_singleton,
      List.singleton_append, List.find?_cons]
    grind

/-! ## Changes -/

/-- A change of the wear of a tool. -/
inductive Call where
  /-- Set the wear of a tool. -/
  | setWear (id : Int) (percent : Float)
  /-- Make a tool as good as new. -/
  | resetWear (id : Int)

namespace Call

/-- The number of the tool that a call names. -/
def id : Call → Int
  | .setWear id _ => id
  | .resetWear id => id

/-- The wear that a call asks for. -/
def percent : Call → Float
  | .setWear _ percent => percent
  | .resetWear _ => 0.0

end Call

/-- The table after a call. -/
def perform (table : ToolTable) : Call → ToolTable
  | .setWear id percent => table.setWear id percent
  | .resetWear id => table.resetWear id

/-- The table after some calls, one after the other. -/
def after (table : ToolTable) (calls : List Call) : ToolTable :=
  calls.foldl perform table

variable {call : Call} {calls : List Call}

theorem perform_eq (table : ToolTable) (call : Call) :
    table.perform call = table.setWear call.id call.percent := by
  cases call <;> rfl

theorem after_append (table : ToolTable) (calls : List Call) (call : Call) :
    table.after (calls ++ [call]) = (table.after calls).setWear call.id call.percent := by
  unfold after
  rw [List.foldl_append, ← perform_eq]
  rfl

/-- A call changes no numbers. -/
theorem map_id_setWear (table : ToolTable) (id : Int) (percent : Float) :
    (table.setWear id percent).tools.map (·.id) = table.tools.map (·.id) := by
  unfold setWear
  split
  · rw [List.map_map]
    refine List.map_congr_left fun tool _ => ?_
    simp only [Function.comp_apply]
    split <;> rfl
  · rfl

theorem map_id_after (table : ToolTable) (calls : List Call) :
    (table.after calls).tools.map (·.id) = table.tools.map (·.id) := by
  induction calls using List.reverseRecOn with
  | nil => rfl
  | append_singleton calls call ih => rw [after_append, map_id_setWear, ih]

theorem contains_iff : table.contains number = true ↔ number ∈ table.tools.map (·.id) := by
  unfold contains get?
  rw [List.find?_isSome, List.mem_map]
  simp only [decide_eq_true_eq]

/-- A number stands for the same tool whether it is looked up or met in the order of the table. -/
theorem get?_of_mem (h : Increasing table.tools) (htool : tool ∈ table.tools) :
    table.get? tool.id = some tool := by
  unfold get?
  generalize table.tools = tools at h htool
  induction tools with
  | nil => cases htool
  | cons first rest ih =>
    rcases List.mem_cons.mp htool with rfl | hrest
    · exact List.find?_cons_of_pos (decide_eq_true rfl)
    · have hlt : first.id < tool.id := List.rel_of_pairwise_cons h hrest
      rw [List.find?_cons_of_neg (by simp; omega)]
      exact ih h.of_cons hrest

theorem increasing_iff : Increasing tools ↔ (tools.map (·.id)).Pairwise (· < ·) :=
  List.pairwise_map.symm

/-- The tools stay in order. -/
theorem increasing_after (h : Increasing table.tools) (calls : List Call) :
    Increasing (table.after calls).tools := by
  rw [increasing_iff, map_id_after, ← increasing_iff]
  exact h

/-! ## What is found after some calls -/

/-- What the calls make of the wear of a tool: the last one that names it counts. -/
def wearAfter (calls : List Call) (tool : Tool) : Float :=
  ((calls.findRev? fun call => decide (call.id = tool.id)).map fun call =>
    clampWear call.percent).getD tool.wear

theorem wearAfter_append (calls : List Call) (call : Call) (tool : Tool) :
    wearAfter (calls ++ [call]) tool =
      if tool.id = call.id then clampWear call.percent else wearAfter calls tool := by
  simp only [wearAfter, List.findRev?_eq_find?_reverse, List.reverse_append,
    List.reverse_singleton, List.singleton_append, List.find?_cons]
  by_cases hid : tool.id = call.id
  · rw [if_pos hid, decide_eq_true hid.symm]
    rfl
  · rw [if_neg hid, decide_eq_false (Ne.symm hid)]

/-- What is found under a number after some calls is what was found there before, but for its
wear. -/
theorem get?_after (table : ToolTable) (calls : List Call) (number : Int) :
    (table.after calls).get? number =
      (table.get? number).map fun tool => { tool with wear := wearAfter calls tool } := by
  induction calls using List.reverseRecOn with
  | nil => exact Option.map_id'.symm
  | append_singleton calls call ih =>
    rw [after_append, get?_setWear, ih, Option.map_map]
    -- the tool has kept its number, so the last call names it now if it named it at first
    congr 1
    funext tool
    simp only [Function.comp_apply, wearAfter_append]
    split <;> rfl

/-- A call is counted if it names a tool. -/
theorem revision_setWear_eq (table : ToolTable) (id : Int) (percent : Float) :
    (table.setWear id percent).revision =
      table.revision + if id ∈ table.tools.map (·.id) then 1 else 0 := by
  unfold setWear
  by_cases hid : table.contains id = true
  · rw [if_pos hid, if_pos (contains_iff.mp hid)]
  · rw [if_neg hid, if_neg (mt contains_iff.mpr hid)]
    rfl

theorem revision_after (table : ToolTable) (calls : List Call) :
    (table.after calls).revision =
      table.revision + calls.countP fun call => decide (call.id ∈ table.tools.map (·.id)) := by
  induction calls using List.reverseRecOn with
  | nil => rfl
  | append_singleton calls call ih =>
    -- no call has changed the numbers, so a tool is named now if it was one of the first table
    rw [after_append, revision_setWear_eq, map_id_after, ih, List.countP_append,
      List.countP_singleton, Nat.add_assoc]
    simp only [decide_eq_true_eq]

/-- The numbers of a table are those of the list from which it was made. -/
theorem mem_map_id_ofList :
    number ∈ (ofList tools).tools.map (·.id) ↔ number ∈ tools.map (·.id) := by
  rw [← contains_iff, contains, get?_ofList, List.findRev?_eq_find?_reverse, List.find?_isSome]
  simp [eq_comm]

/-- What a table holds after any calls, with any numbers and any values. The numbers are those of
the list from which it was made. Under each of them there is a tool of that number, which is the
last one of the list with that number, but for its wear. The wear is that of the tool in the list,
or, if some call named the tool, what the last such call asked for, kept within the bounds of 0 and
100. The tools are met once each, in strictly increasing order of their numbers. The revision counts
the calls that named a tool of the table. -/
theorem determined_by_history (tools : List Tool) (calls : List Call) :
    let table := (ofList tools).after calls
    let numbers := tools.map (·.id)
    (∀ id, table.contains id = true ↔ id ∈ numbers) ∧
    (∀ id ∈ numbers, ∃ tool initial, table.get? id = some tool ∧ tool.id = id ∧
      tools.findRev? (fun t => decide (t.id = id)) = some initial ∧
      { tool with wear := initial.wear } = initial ∧
      (calls.findRev? (fun call => decide (call.id = id)) = none → tool.wear = initial.wear) ∧
      ∀ call, calls.findRev? (fun call => decide (call.id = id)) = some call →
        tool.wear = clampWear call.percent ∧ 0.0 ≤ tool.wear ∧ tool.wear ≤ 100.0) ∧
    (table.tools.map (·.id)).Pairwise (· < ·) ∧
    (∀ id, id ∈ table.tools.map (·.id) ↔ id ∈ numbers) ∧
    (∀ tool ∈ table.tools, table.get? tool.id = some tool) ∧
    table.revision = calls.countP fun call => decide (call.id ∈ numbers) := by
  intro table numbers
  have hincreasing : Increasing table.tools := increasing_after (increasing_ofList tools) calls
  have hnumbers (id : Int) : id ∈ table.tools.map (·.id) ↔ id ∈ numbers := by
    rw [map_id_after]
    exact mem_map_id_ofList
  refine ⟨fun id => contains_iff.trans (hnumbers id), fun id hid => ?_,
    increasing_iff.mp hincreasing, hnumbers, fun tool => get?_of_mem hincreasing, ?_⟩
  · -- the last tool of the list with this number
    have hcontains : ((ofList tools).get? id).isSome = true :=
      contains_iff.mpr (mem_map_id_ofList.mpr hid)
    obtain ⟨initial, hinitial⟩ := Option.isSome_iff_exists.mp hcontains
    obtain rfl := id_of_get? hinitial
    refine ⟨{ initial with wear := wearAfter calls initial }, initial, ?_, rfl, ?_, rfl, ?_, ?_⟩
    · rw [get?_after, hinitial]
      rfl
    · rw [← get?_ofList, hinitial]
    · intro hnone
      simp only [wearAfter, hnone, Option.map_none, Option.getD_none]
    · intro call hcall
      have hwear : wearAfter calls initial = clampWear call.percent := by
        simp only [wearAfter, hcall, Option.map_some, Option.getD_some]
      rw [hwear]
      exact ⟨rfl, clampWear_mem call.percent⟩
  · rw [revision_after, show (ofList tools).revision = 0 from rfl, Nat.zero_add]
    refine List.countP_congr fun call _ => ?_
    rw [decide_eq_true_iff, decide_eq_true_iff]
    exact mem_map_id_ofList

/-- Two tools of one number and one of another, with wear that is beyond the bounds. -/
def repeatedTools : List Tool := [
  { id := 2, name := "old", wear := 5.0 }, { id := 1, wear := 130.0 }, { id := 2, name := "new" }]

/-- Calls with a value that is not a number, a number without a tool, an infinity and a negative
zero. -/
def unusualCalls : List Call := [
  .setWear 2 (0.0 / 0.0), .setWear 9 50.0, .resetWear 9, .setWear 2 (1.0 / 0.0), .setWear 2 (-0.0)]

theorem repeatedTools_after_unusualCalls :
    let table := (ofList repeatedTools).after unusualCalls
    table.tools.map (·.id) = [1, 2] ∧ table.revision = 3 ∧
    (∃ tool, table.get? 1 = some tool ∧ tool.wear = 130.0) ∧
    ∃ tool, table.get? 2 = some tool ∧ tool.name = "new" ∧ tool.wear = 0.0 ∧ 0.0 ≤ tool.wear ∧
      tool.wear ≤ 100.0 := by
  intro table
  obtain ⟨-, hget, -, -, -, hrevision⟩ := determined_by_history repeatedTools unusualCalls
  obtain ⟨first, initial, hfirst, -, hinitial, -, hwear, -⟩ := hget 1 (by decide)
  obtain ⟨second, last, hsecond, -, hlast, hsame, -, hworn⟩ := hget 2 (by decide)
  cases hinitial
  cases hlast
  obtain ⟨hzero, hbounds⟩ := hworn (.setWear 2 (-0.0)) rfl
  refine ⟨by decide +kernel, hrevision.trans (by decide), ⟨first, hfirst, hwear rfl⟩,
    second, hsecond, congrArg Tool.name hsame, ?_, hbounds⟩
  rw [hzero]
  decide +kernel

end ToolTable

end Lathe
