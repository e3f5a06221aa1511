import Lathe.Profile.Document
import Lathe.Proofs.Json.Order
import Lathe.Proofs.Json.Writable

/-!
# Saving and loading documents

A document in which every field has its type is loaded as it was saved: every field of the document
and of its tools has the value that it had. The codes are sets and are written in order, so they
come back in order. Tools are a list and keep their order, whatever numbers they have.

* `Document.Typed`: every field has its type, and no number is what is not a number;
* `Document.load_save`: a typed document is loaded as it was saved.
-/

namespace Lathe

/-! ## Types of fields -/

namespace Json

variable {value : Json}

/-- A string; one that is no text has a code point that is no character. -/
def IsString : Json → Prop
  | .str _ => True
  | .units points => (∀ n ∈ points, n < 0x110000) ∧ ∃ n ∈ points, ¬n.isValidChar
  | _ => False

instance : DecidablePred IsString
  | .str _ => .isTrue trivial
  | .units points =>
    inferInstanceAs (Decidable ((∀ n ∈ points, n < 0x110000) ∧ ∃ n ∈ points, ¬n.isValidChar))
  | .null | .bool _ | .int _ | .float _ | .arr _ | .obj _ => .isFalse id

/-- A list of strings. -/
def IsStrings : Json → Prop
  | .arr items => ∀ item ∈ items, item.IsString
  | _ => False

instance : DecidablePred IsStrings
  | .arr items => inferInstanceAs (Decidable (∀ item ∈ items, item.IsString))
  | .null | .bool _ | .int _ | .float _ | .str _ | .units _ | .obj _ => .isFalse id

/-- A number, whichever way it is written. -/
def IsNumber : Json → Prop
  | .float x => Number.exact x ≠ .nan
  | value => value.IsInteger

instance : DecidablePred IsNumber
  | .float x => inferInstanceAs (Decidable (Number.exact x ≠ .nan))
  | .int _ | .bool _ => .isTrue trivial
  | .null | .str _ | .units _ | .arr _ | .obj _ => .isFalse id

/-- A truth value. -/
def IsBool : Json → Prop
  | .bool _ => True
  | _ => False

instance : DecidablePred IsBool
  | .bool _ => .isTrue trivial
  | .null | .int _ | .float _ | .str _ | .units _ | .arr _ | .obj _ => .isFalse id

theorem isSimple_of_isString (h : value.IsString) : value.isSimple = true := by
  cases value <;> first | rfl | exact h.elim

theorem isSimple_of_isNumber (h : value.IsNumber) : value.isSimple = true := by
  cases value <;> first | rfl | exact h.elim

theorem isSimple_of_isBool (h : value.IsBool) : value.isSimple = true := by
  cases value <;> first | rfl | exact h.elim

theorem exists_arr_of_isStrings (h : value.IsStrings) :
    ∃ items, value = .arr items ∧ ∀ item ∈ items, item.isSimple = true := by
  cases value with
  | arr items => exact ⟨items, rfl, fun item hitem => isSimple_of_isString (h item hitem)⟩
  | _ => exact h.elim

end Json

/-! ## Tools -/

namespace ToolDocument

/-- Every field of the description of a tool has its type. -/
@[mk_iff]
structure Typed (tool : ToolDocument) : Prop where
  id : tool.id.IsInteger
  name : tool.name.IsString
  insertColor : tool.insertColor.IsString
  width : tool.width.IsNumber
  lengthOffset : tool.lengthOffset.IsNumber
  noseRadius : tool.noseRadius.IsNumber
  wear : tool.wear.IsNumber

instance : DecidablePred Typed := fun tool => decidable_of_iff _ (typed_iff tool).symm

/-- The values in the description of a tool. -/
def values (tool : ToolDocument) : List Json := [
  tool.id, tool.name, tool.insertColor, tool.width, tool.lengthOffset, tool.noseRadius, tool.wear]

variable {tool : ToolDocument}

theorem Typed.isSimple (h : tool.Typed) : ∀ value ∈ tool.values, value.isSimple = true := by
  simp only [values, List.forall_mem_cons]
  exact ⟨Json.isSimple_of_isInteger h.id, Json.isSimple_of_isString h.name,
    Json.isSimple_of_isString h.insertColor, Json.isSimple_of_isNumber h.width,
    Json.isSimple_of_isNumber h.lengthOffset, Json.isSimple_of_isNumber h.noseRadius,
    Json.isSimple_of_isNumber h.wear, List.forall_mem_nil _⟩

/-- Every kind of tool is found by its name. -/
theorem kindOf_name (kind : ToolKind) : kindOf kind.name = .ok kind := by
  cases kind <;> decide

theorem ofJson_toJson (tool : ToolDocument) : ofJson tool.toJson = .ok tool := by
  simp [ofJson, toJson, Json.members?, List.lookup, Json.named, kindOf_name, fields]

theorem mapM_ofJson_toJson (tools : List ToolDocument) :
    (tools.map toJson).mapM ofJson = .ok tools := by
  induction tools with
  | nil => rfl
  | cons tool tools ih =>
    rw [List.map_cons, List.mapM_cons, ofJson_toJson, ih]
    rfl

theorem depth_toJson (h : ∀ value ∈ tool.values, value.isSimple = true) :
    tool.toJson.depth = 1 := by
  simp only [values, List.forall_mem_cons] at h
  simp [toJson, Json.depth, Json.depthOfMembers, Json.depth_of_isSimple, h]

theorem readable_toJson (h : ∀ value ∈ tool.values, value.Readable) : tool.toJson.Readable := by
  simp only [values, List.forall_mem_cons] at h
  simp [toJson, Json.Readable, Json.ReadableMembers, h]

theorem isWritable_toJson_iff :
    tool.toJson.isWritable = true ↔ ∀ value ∈ tool.values, value.isWritable = true := by
  rw [toJson, Json.isWritable_obj_iff]
  -- the name of the kind is a text
  simp [values, Json.isWritable]

theorem same_self (h : ∀ value ∈ tool.values, value.isSimple = true) : tool.same tool = true := by
  simp only [values, List.forall_mem_cons] at h
  simp [same, Json.same_self_of_isSimple, h]

end ToolDocument

/-! ## Documents -/

namespace Document

/-- Every field of a document has its type. -/
@[mk_iff]
structure Typed (d : Document) : Prop where
  name : d.name.IsString
  machineType : d.machineType.IsString
  axes : d.axes.IsStrings
  gCodes : Json.IsIntegerSet d.gCodes
  mCodes : Json.IsIntegerSet d.mCodes
  homeX : d.homeX.IsNumber
  homeZ : d.homeZ.IsNumber
  stockDiameter : d.stockDiameter.IsNumber
  stockLength : d.stockLength.IsNumber
  maxSpindle : d.maxSpindle.IsNumber
  baseTick : d.baseTick.IsInteger
  wearRate : d.wearRate.IsNumber
  wearThreshold : d.wearThreshold.IsNumber
  negatesOffset : d.negatesOffset.IsBool
  tools : ∀ tool ∈ d.tools, tool.Typed

instance : DecidablePred Typed := fun d => decidable_of_iff _ (typed_iff d).symm

/-- The simple values in a document, other than codes and tools. -/
def scalars (d : Document) : List Json := [
  d.name, d.machineType, d.homeX, d.homeZ, d.stockDiameter, d.stockLength, d.maxSpindle, d.baseTick,
  d.wearRate, d.wearThreshold, d.negatesOffset]

/-- The values in a document. -/
def values (d : Document) : List Json :=
  d.scalars ++ d.axes :: (d.gCodes ++ d.mCodes ++ d.tools.flatMap ToolDocument.values)

variable {d : Document} {gCodes mCodes : List Json}

theorem Typed.isSimple (h : d.Typed) : ∀ value ∈ d.scalars, value.isSimple = true := by
  simp only [scalars, List.forall_mem_cons]
  exact ⟨Json.isSimple_of_isString h.name, Json.isSimple_of_isString h.machineType,
    Json.isSimple_of_isNumber h.homeX, Json.isSimple_of_isNumber h.homeZ,
    Json.isSimple_of_isNumber h.stockDiameter, Json.isSimple_of_isNumber h.stockLength,
    Json.isSimple_of_isNumber h.maxSpindle, Json.isSimple_of_isInteger h.baseTick,
    Json.isSimple_of_isNumber h.wearRate, Json.isSimple_of_isNumber h.wearThreshold,
    Json.isSimple_of_isBool h.negatesOffset, List.forall_mem_nil _⟩

/-- The value that describes a document, with its codes in a given order. -/
def described (d : Document) (gCodes mCodes : List Json) : Json :=
  .obj [("name", d.name), ("machine_type", d.machineType), ("axes", d.axes),
    ("g_codes", .arr gCodes), ("m_codes", .arr mCodes), ("home_x", d.homeX),
    ("home_z", d.homeZ), ("stock_diameter", d.stockDiameter), ("stock_length", d.stockLength),
    ("max_spindle", d.maxSpindle), ("base_tick_ms", d.baseTick), ("wear_rate", d.wearRate),
    ("wear_flush_threshold", d.wearThreshold), ("g44_negates_offset", d.negatesOffset),
    ("tools", .arr (d.tools.map ToolDocument.toJson))]

theorem codeSet?_arr {codes : List Json} (h : Json.IsIntegerSet codes) :
    codeSet? (.arr codes) = some codes := by
  have hsimple : codes.all Json.isSimple = true :=
    List.all_eq_true.mpr fun code hcode => Json.isSimple_of_isInteger (h.isInteger code hcode)
  rw [codeSet?, Json.elements?]
  dsimp only
  rw [if_pos hsimple, h.distinct_eq]

/-- Every field is found again under its name. -/
theorem ofJson_described (hgCodes : Json.IsIntegerSet gCodes) (hmCodes : Json.IsIntegerSet mCodes) :
    ofJson (d.described gCodes mCodes) = .ok { d with gCodes, mCodes } := by
  simp [ofJson, described, List.lookup, codeSet?_arr hgCodes, codeSet?_arr hmCodes, Json.elements?,
    ToolDocument.mapM_ofJson_toJson, fields, -List.mapM_map]

theorem depth_arr_le {k : Nat} {items : List Json} (h : ∀ item ∈ items, item.depth ≤ k) :
    (Json.arr items).depth ≤ k + 1 :=
  Nat.succ_le_succ (Json.depthOfItems_le h)

theorem depth_arr_of_isSimple {items : List Json} (h : ∀ item ∈ items, item.isSimple = true) :
    (Json.arr items).depth ≤ 1 :=
  depth_arr_le fun item hitem => (Json.depth_of_isSimple (h item hitem)).le

theorem depth_described (htyped : d.Typed) (hgCodes : Json.IsIntegerSet gCodes)
    (hmCodes : Json.IsIntegerSet mCodes) : (d.described gCodes mCodes).depth ≤ 3 := by
  have hscalars := htyped.isSimple
  simp only [scalars, List.forall_mem_cons] at hscalars
  have haxes : d.axes.depth ≤ 1 := by
    obtain ⟨items, heq, hsimple⟩ := Json.exists_arr_of_isStrings htyped.axes
    rw [heq]
    exact depth_arr_of_isSimple hsimple
  have hg := depth_arr_of_isSimple fun code hcode =>
    Json.isSimple_of_isInteger (hgCodes.isInteger code hcode)
  have hm := depth_arr_of_isSimple fun code hcode =>
    Json.isSimple_of_isInteger (hmCodes.isInteger code hcode)
  have htools : (Json.arr (d.tools.map ToolDocument.toJson)).depth ≤ 2 :=
    depth_arr_le (List.forall_mem_map.mpr fun tool htool =>
      (ToolDocument.depth_toJson (htyped.tools tool htool).isSimple).le)
  rw [described, Json.depth]
  simp only [Json.depthOfMembers, Json.depth_of_isSimple, hscalars]
  omega

/-- A typed document can be described; only its codes are put in order. -/
theorem exists_toJson_eq (htyped : d.Typed) :
    ∃ gCodes mCodes, gCodes.Perm d.gCodes ∧ mCodes.Perm d.mCodes ∧
      d.toJson = .ok (d.described gCodes mCodes) := by
  obtain ⟨gCodes, hgCodes, hgPerm⟩ := Json.exists_sorted?_eq htyped.gCodes.isInteger
  obtain ⟨mCodes, hmCodes, hmPerm⟩ := Json.exists_sorted?_eq htyped.mCodes.isInteger
  refine ⟨gCodes, mCodes, hgPerm, hmPerm, ?_⟩
  -- three collections within each other are far from too many
  have hdepth := depth_described htyped (htyped.gCodes.perm hgPerm) (htyped.mCodes.perm hmPerm)
  rw [toJson, hgCodes, hmCodes]
  exact if_pos (hdepth.trans (by decide))

theorem readableItems_iff {items : List Json} :
    Json.ReadableItems items ↔ ∀ item ∈ items, item.Readable := by
  induction items with
  | nil => simp [Json.ReadableItems]
  | cons item items ih => rw [Json.ReadableItems, ih, List.forall_mem_cons]

theorem readable_described (h : ∀ value ∈ d.values, value.Readable) (hgPerm : gCodes.Perm d.gCodes)
    (hmPerm : mCodes.Perm d.mCodes) : (d.described gCodes mCodes).Readable := by
  simp only [values, scalars, List.forall_mem_append, List.forall_mem_cons, List.forall_mem_flatMap]
    at h
  obtain ⟨hscalars, haxes, ⟨hg, hm⟩, htools⟩ := h
  have hgReadable : (Json.arr gCodes).Readable :=
    readableItems_iff.mpr fun code hcode => hg code (hgPerm.mem_iff.mp hcode)
  have hmReadable : (Json.arr mCodes).Readable :=
    readableItems_iff.mpr fun code hcode => hm code (hmPerm.mem_iff.mp hcode)
  have htoolsReadable : (Json.arr (d.tools.map ToolDocument.toJson)).Readable :=
    readableItems_iff.mpr (List.forall_mem_map.mpr fun tool htool =>
      ToolDocument.readable_toJson (htools tool htool))
  refine ⟨by simp, ?_⟩
  simp only [Json.ReadableMembers, hscalars, haxes, hgReadable, hmReadable, htoolsReadable,
    and_self]

/-- A document can be written if the values in it can. -/
theorem isWritable_described (hgPerm : gCodes.Perm d.gCodes) (hmPerm : mCodes.Perm d.mCodes) :
    (d.described gCodes mCodes).isWritable = d.values.all Json.isWritable := by
  have hg : (Json.arr gCodes).isWritable = true ↔ ∀ code ∈ d.gCodes, code.isWritable = true := by
    simp only [Json.isWritable_arr_iff, hgPerm.mem_iff]
  have hm : (Json.arr mCodes).isWritable = true ↔ ∀ code ∈ d.mCodes, code.isWritable = true := by
    simp only [Json.isWritable_arr_iff, hmPerm.mem_iff]
  have htools : (Json.arr (d.tools.map ToolDocument.toJson)).isWritable = true ↔
      ∀ tool ∈ d.tools, ∀ value ∈ tool.values, value.isWritable = true := by
    simp only [Json.isWritable_arr_iff, List.forall_mem_map, ToolDocument.isWritable_toJson_iff]
  rw [Bool.eq_iff_iff, List.all_eq_true, described, Json.isWritable_obj_iff]
  simp only [values, scalars, List.forall_mem_append, List.forall_mem_cons,
    List.forall_mem_flatMap, hg, hm, htools]
  -- the same parts in another order
  tauto

theorem sameCodes_of_perm {codes others : List Json} (h : Json.IsIntegerSet codes)
    (hperm : codes.Perm others) : sameCodes codes others = true := by
  rw [sameCodes, decide_eq_true hperm.length_eq, Bool.true_and, List.all_eq_true]
  intro code hcode
  rw [List.any_eq_true]
  exact ⟨code, hperm.mem_iff.mp hcode,
    Json.same_self_of_isSimple (Json.isSimple_of_isInteger (h.isInteger code hcode))⟩

theorem same_of_perm (htyped : d.Typed) (hgPerm : gCodes.Perm d.gCodes)
    (hmPerm : mCodes.Perm d.mCodes) : same { d with gCodes, mCodes } d = true := by
  have hscalars := htyped.isSimple
  simp only [scalars, List.forall_mem_cons] at hscalars
  have haxes : d.axes.same d.axes = true := by
    obtain ⟨items, heq, hsimple⟩ := Json.exists_arr_of_isStrings htyped.axes
    rw [heq, Json.same]
    exact Json.sameItems_self hsimple
  have htools : ∀ s t, (s, t) ∈ d.tools.zip d.tools → s.same t = true := by
    intro s t hmem
    rw [List.zip_eq_zipWith, List.zipWith_self, List.mem_map] at hmem
    obtain ⟨tool, htool, heq⟩ := hmem
    obtain ⟨rfl, rfl⟩ := Prod.mk.inj heq
    exact ToolDocument.same_self (htyped.tools tool htool).isSimple
  simpa [same, Json.same_self_of_isSimple, hscalars, haxes,
    sameCodes_of_perm (htyped.gCodes.perm hgPerm) hgPerm,
    sameCodes_of_perm (htyped.mCodes.perm hmPerm) hmPerm] using htools

/-- A typed document is saved, unless an integer in it is too long to be written. If the text of its
value is read as that value, then the document is saved, and is loaded as the same document: every
field is as it was, and the codes are the same set. A text of readable values is read so. -/
theorem load_save (htyped : d.Typed) :
    ∃ value, d.toJson = .ok value ∧
      d.save = (if d.values.all Json.isWritable then .ok value.indented
        else .error (.notInteger .tooLong)) ∧
      ((∀ value ∈ d.values, value.Readable) → Json.read value.indented = .ok value) ∧
      (Json.read value.indented = .ok value →
        d.save = .ok value.indented ∧
        ∃ loaded, load (some value.indented) = .ok loaded ∧ loaded.same d = true ∧
          loaded.gCodes.Perm d.gCodes ∧ loaded.mCodes.Perm d.mCodes ∧
          loaded = { d with gCodes := loaded.gCodes, mCodes := loaded.mCodes }) := by
  obtain ⟨gCodes, mCodes, hgPerm, hmPerm, hvalue⟩ := exists_toJson_eq htyped
  have hgCodes := htyped.gCodes.perm hgPerm
  have hmCodes := htyped.mCodes.perm hmPerm
  have hdepth := depth_described htyped hgCodes hmCodes
  have hsave : d.save = (d.described gCodes mCodes).toText := by
    rw [save, hvalue]
  refine ⟨_, hvalue, ?_, fun hreadable => ?_, fun hread => ⟨?_, ?_⟩⟩
  · rw [hsave, Json.toText, isWritable_described hgPerm hmPerm]
  · exact Json.read_indented (readable_described hreadable hgPerm hmPerm) (hdepth.trans (by decide))
  · rw [hsave, Json.toText, if_pos (Json.isWritable_of_read hread)]
  · -- the codes are read in the order in which they were written
    refine ⟨{ d with gCodes, mCodes }, ?_, same_of_perm htyped hgPerm hmPerm, hgPerm, hmPerm, rfl⟩
    rw [load, Option.map_some, hread]
    dsimp only
    rw [ofJson_described hgCodes hmCodes]

/-- A document with codes out of order, two tools of one number, an infinite speed and a string that
is no text. -/
def repaired : Document where
  name := .str "Torno nº 2"
  machineType := .units [0x6C, 0xDC00]
  gCodes := [.int 28, .int (-1), .bool true, .int 0]
  mCodes := [.int 30, .int 3]
  homeX := .float (-0.0)
  homeZ := .int 50
  maxSpindle := .float (1.0 / 0.0)
  negatesOffset := .bool true
  tools := [{ id := .int 7, kind := .grooving, width := .float 0.1 },
    { id := .int 7, kind := .threading, name := .str "Roscado \"60\"", wear := .float 1e-7 }]

theorem load_save_repaired :
    repaired.Typed ∧ ∃ text loaded, repaired.save = .ok text ∧ load (some text) = .ok loaded ∧
      loaded.same repaired = true := by
  have htyped : repaired.Typed := by decide +kernel
  have hreadable : ∀ value ∈ repaired.values, value.Readable := by decide +kernel
  obtain ⟨value, -, -, hread, hload⟩ := load_save htyped
  obtain ⟨hsave, loaded, hloaded, hsame, -⟩ := hload (hread hreadable)
  exact ⟨htyped, value.indented, loaded, hsave, hloaded, hsame⟩

end Document

end Lathe
