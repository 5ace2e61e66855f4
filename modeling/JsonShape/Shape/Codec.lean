import JsonShape.Schema.Codec
import JsonShape.Shape

/-!
# Shapes as JSON

`Shape.toJson` writes a shape as an object with its form's name as `type` and the fields of that
form; `Shape.ofJson?` reads one. A field may stand once only, members that are no fields are
ignored, and name and fields may also stand in an array, in order. Inside a shape, a form may also
be given by its number. What is read may break the rules for shapes: see `Shape.check`.
-/

set_option autoImplicit false

namespace JsonShape

/-! ## Writing -/

/-- A range as JSON. -/
def Interval.toJson (range : Interval) : Json :=
  .object [("min", .ofDouble range.lo), ("max", .ofDouble range.hi)]

namespace Shape

/-- The member that names a form. -/
def typeMember (form : Form) : String × Json := ("type", .string form.name)

mutual

/-- A shape as JSON. -/
def toJson : Shape → Json
  | unknown => .object [typeMember .unknown]
  | boolean => .object [typeMember .boolean]
  | int range => .object [typeMember .int, ("range", range.toJson)]
  | float range => .object [typeMember .float, ("range", range.toJson)]
  | string format =>
    .object (typeMember .string :: keyword "format" (fun f => .string f.name) format)
  | array items => .object [typeMember .array, ("items", toJson items)]
  | object ⟨required, optional⟩ =>
    .object [typeMember .object, ("required", .object (toJsonMembers required)),
      ("optional", .object (toJsonMembers optional))]
  | nullable inner => .object [typeMember .nullable, ("inner", toJson inner)]
  | anyOf alternatives =>
    .object [typeMember .any, ("alternatives", .array (toJsonItems alternatives))]

/-- Shapes of keys as members. -/
def toJsonMembers : List (String × Shape) → List (String × Json)
  | [] => []
  | (key, t) :: rest => (key, toJson t) :: toJsonMembers rest

/-- Shapes as items. -/
def toJsonItems : List Shape → List Json
  | [] => []
  | t :: rest => toJson t :: toJsonItems rest

end

end Shape

/-! ## Reading -/

/-- The value of a key that may be absent but not stand twice. -/
def Entries.atMostOne? {α : Type} (key : String) (es : Entries α) : Option (Option α) :=
  match es.filter fun e => e.1 == key with
  | [] => some none
  | [(_, v)] => some (some v)
  | _ => none

/-- The value of a key that stands exactly once. -/
def Entries.only? {α : Type} (key : String) (es : Entries α) : Option α :=
  (Entries.atMostOne? key es).join

/-- The range that a value is: an object, or both ends in an array. -/
def Interval.ofJson? : Json → Option Interval
  | .object members => do
    let lo ← (Entries.only? "min" members).bind Json.number?
    let hi ← (Entries.only? "max" members).bind Json.number?
    some ⟨lo.toDouble, hi.toDouble⟩
  | .array [min, max] => do
    let lo ← min.number?
    let hi ← max.number?
    some ⟨lo.toDouble, hi.toDouble⟩
  | _ => none

/-- The format that a value names. -/
def TextFormat.ofJson? (v : Json) : Option TextFormat := v.tag?.bind TextFormat.ofName?

namespace Form

/-- The form that a value names. -/
def named? : Json → Option Form
  | .string name => ofName? name
  | _ => none

/-- The form that a value names or numbers. -/
def ofJson? (v : Json) : Option Form :=
  match v.nat? with
  | some index => all[index]?
  | none => named? v

/-- The names of a form's fields, in the order in which an array holds them. -/
def fieldNames : Form → List String
  | unknown | boolean => []
  | int | float => ["range"]
  | string => ["format"]
  | array => ["items"]
  | object => ["required", "optional"]
  | nullable => ["inner"]
  | any => ["alternatives"]

end Form

namespace Shape

/-- What a value says where shapes are read: itself, and the shape, the shapes and the properties
that it is. -/
structure Reading where
  json : Json
  shape : Option Shape
  shapes : Option (List Shape)
  properties : Option (Entries Shape)

/-- The properties of a field that may be absent. -/
def properties? (name : String) (fields : Entries Reading) : Option (Entries Shape) :=
  match Entries.atMostOne? name fields with
  | some none => some []
  | some (some r) => r.properties
  | none => none

/-- The shape of a form with given fields. -/
def ofFields? (fields : Entries Reading) : Form → Option Shape
  | .unknown => some unknown
  | .boolean => some boolean
  | .int => (Entries.only? "range" fields).bind fun r => (Interval.ofJson? r.json).map int
  | .float => (Entries.only? "range" fields).bind fun r => (Interval.ofJson? r.json).map float
  | .string => do
    let field ← Entries.atMostOne? "format" fields
    let format ← optional? TextFormat.ofJson? (field.map Reading.json)
    some (string format)
  | .array => (Entries.only? "items" fields).bind fun r => r.shape.map array
  | .object => do
    let required ← properties? "required" fields
    let optional ← properties? "optional" fields
    some (object ⟨required, optional⟩)
  | .nullable => (Entries.only? "inner" fields).bind fun r => r.shape.map nullable
  | .any => (Entries.only? "alternatives" fields).bind fun r => r.shapes.map anyOf

/-- The shape that the members of an object are, given how its form is told. -/
def ofMembers? (form? : Json → Option Form) (members : Entries Reading) : Option Shape := do
  let type ← Entries.only? "type" members
  let form ← form? type.json
  ofFields? members form

/-- The shape that the items of an array are, given how its form is told. -/
def ofItems? (form? : Json → Option Form) : List Reading → Option Shape
  | [] => none
  | type :: fields => do
    let form ← form? type.json
    if fields.length ≤ form.fieldNames.length then
      ofFields? (form.fieldNames.zip fields) form
    else none

mutual

/-- The reading of a value inside a shape. -/
def reading : Json → Reading
  | .array items =>
    let rs := readings items
    ⟨.array items, ofItems? Form.ofJson? rs, rs.mapM Reading.shape, none⟩
  | .object members =>
    let rs := memberReadings members
    ⟨.object members, ofMembers? Form.ofJson? rs, none,
      (rs.mapM fun (e : String × Reading) => e.2.shape.map (e.1, ·)).map Entries.ofList⟩
  | v => ⟨v, none, none, none⟩

/-- The readings of items. -/
def readings : List Json → List Reading
  | [] => []
  | v :: rest => reading v :: readings rest

/-- The readings of members. -/
def memberReadings : List (String × Json) → Entries Reading
  | [] => []
  | (key, v) :: rest => (key, reading v) :: memberReadings rest

end

/-- The shape that a value is. -/
def ofJson? : Json → Option Shape
  | .array items => ofItems? Form.named? (readings items)
  | .object members => ofMembers? Form.named? (memberReadings members)
  | _ => none

end Shape

end JsonShape
