import Lathe.Json.Conversion
import Lathe.Json.Order
import Lathe.Json.Printer
import Lathe.Json.Reader
import Lathe.Profile.Basic
import Lathe.Text.Upper

/-!
# Profiles as documents

Profiles are stored as JSON documents. A document need not be well typed: most of its fields are
kept as they stand, whatever they hold, so that a file that is loaded and saved again keeps its
contents. What is checked is the shape: an object without unknown fields, with a name, with code
lists that are collections of simple values, and with tools of known kinds.

* `Document.ofJson` checks the shape, `Document.load` falls back to the trainer lathe.
* `Document.toJson` and `Document.save` write a document; code lists are written in order.
* `Document.same` compares two documents field by field.
* `Profile.document` and `Profile.ofDocument` go between profiles and well-typed documents.
-/

namespace Lathe

/-- A tool as it is stored. -/
structure ToolDocument where
  /-- The number of the tool. -/
  id : Json
  /-- What the operator calls it. -/
  name : Json := .str ""
  /-- Its kind. -/
  kind : ToolKind := .general
  /-- The colour of its insert on screen. -/
  insertColor : Json := .str "#FFD700"
  /-- The width of its edge. -/
  width : Json := .float 0.0
  /-- How far it stands out. -/
  lengthOffset : Json := .float 0.0
  /-- The radius of its tip. -/
  noseRadius : Json := .float 0.0
  /-- How much of it is worn, in percent. -/
  wear : Json := .float 0.0

/-- A profile as it is stored. -/
structure Document where
  /-- What the operator calls the machine. -/
  name : Json
  /-- The type of machine. -/
  machineType : Json := .str "lathe"
  /-- The axes of the machine. -/
  axes : Json := .arr [.str "X", .str "Z"]
  /-- The preparatory codes, without repetitions. -/
  gCodes : List Json
  /-- The miscellaneous codes, without repetitions. -/
  mCodes : List Json
  /-- The diameter coordinate of the reference point. -/
  homeX : Json := .float 100.0
  /-- The length coordinate of the reference point. -/
  homeZ : Json := .float 50.0
  /-- The diameter of the stock. -/
  stockDiameter : Json := .float 80.0
  /-- The length of the stock. -/
  stockLength : Json := .float 150.0
  /-- The highest spindle speed. -/
  maxSpindle : Json := .float 4000.0
  /-- The time for one statement at full feed, in milliseconds. -/
  baseTick : Json := .int 500
  /-- The wear for each millimetre cut in steel, in percent. -/
  wearRate : Json := .float 0.2
  /-- The wear that must be passed to be written to the tool table. -/
  wearThreshold : Json := .float 0.5
  /-- Whether `G44` applies the negated length offset. -/
  negatesOffset : Json := .bool false
  /-- The tools in the turret. -/
  tools : List ToolDocument

namespace Json

/-- The items of a collection: of a list its items, of an object its names, of a string its
characters. -/
def elements? : Json → Option (List Json)
  | .arr items => some items
  | .obj members => some (members.map fun (key, _) => .str key)
  | value => value.points?.map fun points => points.map fun n => ofPoints [n]

/-- The members of a value that is an object, or a list of pairs of a name and a value. -/
def members? : Json → Option (List (String × Json))
  | .obj members => some members
  | .arr items => do
    let pairs ← items.mapM fun item => do
      match ← item.elements? with
      | [.str key, value] => some (key, value)
      | _ => Option.none
    some (pairs.foldl (fun members (key, value) => Association.put key value members) [])
  | .str "" => some []
  | _ => Option.none

end Json

namespace ToolDocument

/-- The entries that the description of a tool may have. -/
def fields : List String := [
  "id", "name", "kind", "insert_color", "width", "length_offset", "nose_radius", "wear_percent"]

/-- The kind of tool of a given name. -/
def kindOf (name : String) : Except Fault ToolKind :=
  match ToolKind.ofName? name with
  | some kind => .ok kind
  | none => .error (.notMember .toolKind (Text.quoted name))

/-- The tool that a value describes. A kind that does not exist is found first, then an unknown
entry or a missing number. -/
def ofJson (value : Json) : Except Fault ToolDocument :=
  match value.members? with
  | none => .error .malformedTool
  | some members =>
    match ((members.lookup "kind").getD (.str ToolKind.general.name)).named .toolKind kindOf with
    | .error fault => .error fault
    | .ok kind =>
      match members.lookup "id" with
      | none => .error .malformedTool
      | some id =>
        if members.all fun (key, _) => fields.contains key then
          let blank : ToolDocument := { id }
          let get (key : String) (default : Json) : Json := (members.lookup key).getD default
          .ok
            { id
              name := get "name" blank.name
              kind
              insertColor := get "insert_color" blank.insertColor
              width := get "width" blank.width
              lengthOffset := get "length_offset" blank.lengthOffset
              noseRadius := get "nose_radius" blank.noseRadius
              wear := get "wear_percent" blank.wear }
        else .error .malformedTool

/-- The description of a tool. -/
def toJson (tool : ToolDocument) : Json :=
  .obj [("id", tool.id), ("name", tool.name), ("kind", .str tool.kind.name),
    ("insert_color", tool.insertColor), ("width", tool.width),
    ("length_offset", tool.lengthOffset), ("nose_radius", tool.noseRadius),
    ("wear_percent", tool.wear)]

/-- Whether two descriptions are the same, field by field. -/
def same (s t : ToolDocument) : Bool :=
  s.id.same t.id && s.name.same t.name && decide (s.kind = t.kind) &&
    s.insertColor.same t.insertColor && s.width.same t.width &&
    s.lengthOffset.same t.lengthOffset && s.noseRadius.same t.noseRadius && s.wear.same t.wear

/-- The description of a given tool. -/
def ofTool (tool : Tool) : ToolDocument :=
  { id := .int tool.id, name := .str tool.name, kind := tool.kind,
    insertColor := .str tool.insertColor, width := .float tool.width,
    lengthOffset := .float tool.lengthOffset, noseRadius := .float tool.noseRadius,
    wear := .float tool.wear }

/-- The tool of a well-typed description. -/
def toTool (tool : ToolDocument) : Except Fault Tool :=
  match tool.id, tool.name, tool.insertColor with
  | .int id, .str name, .str insertColor => do
    let width ← tool.width.number
    let lengthOffset ← tool.lengthOffset.number
    let noseRadius ← tool.noseRadius.number
    let wear ← tool.wear.number
    return { id, name, kind := tool.kind, insertColor, width, lengthOffset, noseRadius, wear }
  | _, _, _ => .error .malformedTool

end ToolDocument

namespace Document

/-- The fields of a profile. -/
def fields : List String := [
  "name", "machine_type", "axes", "g_codes", "m_codes", "home_x", "home_z", "stock_diameter",
  "stock_length", "max_spindle", "base_tick_ms", "wear_rate", "wear_flush_threshold",
  "g44_negates_offset", "tools"]

/-- The set of values in a collection of simple values. -/
def codeSet? (value : Json) : Option (List Json) :=
  match value.elements? with
  | none => none
  | some items => if items.all Json.isSimple then some (Json.distinct items) else none

/-- The document that a value describes. -/
def ofJson (value : Json) : Except Fault Document :=
  match value with
  | .obj members =>
    match (members.lookup "g_codes").bind codeSet?, (members.lookup "m_codes").bind codeSet?,
      ((members.lookup "tools").getD (.arr [])).elements?, members.lookup "name" with
    | some gCodes, some mCodes, some toolValues, some name =>
      match toolValues.mapM ToolDocument.ofJson with
      | .error fault => .error fault
      | .ok tools =>
        if members.all fun (key, _) => fields.contains key then
          let blank : Document := { name, gCodes, mCodes, tools }
          let get (key : String) (default : Json) : Json := (members.lookup key).getD default
          .ok
            { name, gCodes, mCodes, tools
              machineType := get "machine_type" blank.machineType
              axes := get "axes" blank.axes
              homeX := get "home_x" blank.homeX
              homeZ := get "home_z" blank.homeZ
              stockDiameter := get "stock_diameter" blank.stockDiameter
              stockLength := get "stock_length" blank.stockLength
              maxSpindle := get "max_spindle" blank.maxSpindle
              baseTick := get "base_tick_ms" blank.baseTick
              wearRate := get "wear_rate" blank.wearRate
              wearThreshold := get "wear_flush_threshold" blank.wearThreshold
              negatesOffset := get "g44_negates_offset" blank.negatesOffset }
        else .error .malformedProfile
    | _, _, _, _ => .error .malformedProfile
  | _ => .error .malformedProfile

/-- How many collections a document that is written may have within each other. -/
def deepest : Nat := 496

/-- The value that describes a document. It faults if the codes cannot be put in order, or if the
document is too deep. -/
def toJson (d : Document) : Except Fault Json :=
  match Json.sorted? d.gCodes, Json.sorted? d.mCodes with
  | some gCodes, some mCodes =>
    let value := Json.obj [("name", d.name), ("machine_type", d.machineType), ("axes", d.axes),
      ("g_codes", .arr gCodes), ("m_codes", .arr mCodes), ("home_x", d.homeX),
      ("home_z", d.homeZ), ("stock_diameter", d.stockDiameter), ("stock_length", d.stockLength),
      ("max_spindle", d.maxSpindle), ("base_tick_ms", d.baseTick), ("wear_rate", d.wearRate),
      ("wear_flush_threshold", d.wearThreshold), ("g44_negates_offset", d.negatesOffset),
      ("tools", .arr (d.tools.map ToolDocument.toJson))]
    if value.depth ≤ deepest then .ok value else .error .tooDeep
  | _, _ => .error .incomparable

/-- The text that is written when a document is saved. It faults if the document cannot be
described, or if an integer in it is too long to be written. -/
def save (d : Document) : Except Fault String :=
  match d.toJson with
  | .ok value => value.toText
  | .error fault => .error fault

/-- Whether two sets of codes have the same members. -/
def sameCodes (xs ys : List Json) : Bool :=
  decide (xs.length = ys.length) && xs.all fun x => ys.any (Json.same x)

/-- Whether two documents are the same, field by field. -/
def same (c d : Document) : Bool :=
  c.name.same d.name && c.machineType.same d.machineType && c.axes.same d.axes &&
    sameCodes c.gCodes d.gCodes && sameCodes c.mCodes d.mCodes && c.homeX.same d.homeX &&
    c.homeZ.same d.homeZ && c.stockDiameter.same d.stockDiameter &&
    c.stockLength.same d.stockLength && c.maxSpindle.same d.maxSpindle &&
    c.baseTick.same d.baseTick && c.wearRate.same d.wearRate &&
    c.wearThreshold.same d.wearThreshold && c.negatesOffset.same d.negatesOffset &&
    decide (c.tools.length = d.tools.length) &&
    (c.tools.zip d.tools).all fun (s, t) => s.same t

/-- Whether a code is in a set of codes. -/
def allows (codes : List Json) (code : Json) : Except Fault Bool :=
  if code.isSimple then .ok (codes.any code.same) else .error .notSimple

/-- Whether the machine has an axis of a given name, in any case. A text of axes is searched for the
name. -/
def hasAxis (d : Document) (axis : String) : Except Fault Bool :=
  let name := Text.upperText axis.toList
  match d.axes with
  | .arr items => .ok (items.any (Json.same (.str (String.ofList name))))
  | .obj members => .ok (members.any fun (key, _) => decide (key.toList = name))
  | axes =>
    match axes.points? with
    | some points =>
      let sought := name.map Char.toNat
      .ok ((List.range (points.length + 1)).any fun i => sought.isPrefixOf (points.drop i))
    | none => .error .incomparable

/-- The numbers of the tools, in order and without repetitions. -/
def toolIds (d : Document) : Except Fault (List Json) :=
  let ids := d.tools.map (·.id)
  if ids.all Json.isSimple then
    match Json.sorted? (Json.distinct ids.reverse) with
    | some sorted => .ok sorted
    | none => .error .incomparable
  else .error .incomparable

end Document

namespace Profile

/-- The value of a code. -/
def codeJson : Code → Json
  | .whole n => .int n
  | .fraction x => .float x

/-- The code of a numeric value. -/
def codeOf? (value : Json) : Option Code :=
  match value with
  | .int n => some (.whole n)
  | .float x => some ((Code.ofNumber x).toOption.getD (.fraction x))
  | .bool b => some (.whole (if b then 1 else 0))
  | _ => none

/-- The document of a profile. -/
def document (p : Profile) : Document where
  name := .str p.name
  machineType := .str p.machineType
  axes := .arr (p.axes.map Json.str)
  gCodes := p.gCodes.map codeJson
  mCodes := p.mCodes.map codeJson
  homeX := .float p.home.x
  homeZ := .float p.home.z
  stockDiameter := .float p.stockDiameter
  stockLength := .float p.stockLength
  maxSpindle := .float p.maxSpindle
  baseTick := .int p.baseTick
  wearRate := .float p.wearRate
  wearThreshold := .float p.wearThreshold
  negatesOffset := .bool p.negatesOffset
  tools := p.tools.map ToolDocument.ofTool

/-- The text of a text value. -/
def textOf? : Json → Option String
  | .str s => some s
  | _ => none

/-- The profile of a well-typed document. -/
def ofDocument? (d : Document) : Option Profile := do
  let name ← textOf? d.name
  let machineType ← textOf? d.machineType
  let axes ← match d.axes with
    | .arr items => items.mapM textOf?
    | _ => none
  let gCodes ← d.gCodes.mapM codeOf?
  let mCodes ← d.mCodes.mapM codeOf?
  let homeX ← d.homeX.number.toOption
  let homeZ ← d.homeZ.number.toOption
  let stockDiameter ← d.stockDiameter.number.toOption
  let stockLength ← d.stockLength.number.toOption
  let maxSpindle ← d.maxSpindle.number.toOption
  let baseTick ← match d.baseTick with
    | .int n => some n
    | _ => none
  let wearRate ← d.wearRate.number.toOption
  let wearThreshold ← d.wearThreshold.number.toOption
  let negatesOffset ← match d.negatesOffset with
    | .bool b => some b
    | _ => none
  let tools ← d.tools.mapM fun tool => tool.toTool.toOption
  some
    { name, machineType, axes, gCodes, mCodes, home := ⟨homeX, homeZ⟩, stockDiameter, stockLength,
      maxSpindle, baseTick, wearRate, wearThreshold, negatesOffset, tools }

end Profile

/-- The document in a file with the given text, or no file at all. Whatever is wrong with it, the
trainer lathe takes its place, unless it is too deep to be read. -/
def Document.load (file : Option String) : Except Fault Document :=
  match file.map Json.read with
  | some (.error .tooDeep) => .error .tooDeep
  | some (.ok value) =>
    match Document.ofJson value with
    | .ok d => .ok d
    | .error _ => .ok Profile.lathe.document
  | _ => .ok Profile.lathe.document

end Lathe
