import JsonShape.Schema

/-!
# Schemas as JSON

`Schema.toJson` writes a schema, keywords in the order of the structure and absent ones left out;
`Schema.ofJson?` reads one. A null keyword is an absent one, other keywords are ignored, and all
eleven in order may stand in an array. A type may also be written as an object with one member, the
name of the type, that holds null or nothing.
-/

set_option autoImplicit false

namespace JsonShape

/-! ## Writing -/

/-- The types as JSON: a name or a list of names. -/
def TypeSet.toJson : TypeSet → Json
  | one t => .string t.name
  | several ts => .array (ts.map fun t => .string t.name)

/-- A member for a keyword that is present. -/
def keyword {α : Type} (name : String) (write : α → Json) : Option α → List (String × Json)
  | some x => [(name, write x)]
  | none => []

namespace Schema

mutual

/-- A schema as JSON, keywords in their own order. -/
def toJson : Schema → Json
  | ⟨draft, types, format, minimum, maximum, items, maxItems, properties, required, anyOf, not⟩ =>
    .object
      (keyword "$schema" .string draft ++ keyword "type" TypeSet.toJson types ++
        keyword "format" .string format ++ keyword "minimum" .number minimum ++
        keyword "maximum" .number maximum ++ nodeMember "items" items ++
        keyword "maxItems" .ofNat maxItems ++ propertiesMember properties ++
        keyword "required" (fun keys => .array (keys.map .string)) required ++
        anyOfMember anyOf ++ nodeMember "not" not)

/-- The member of a keyword that holds a schema. -/
def nodeMember (name : String) : Option Schema → List (String × Json)
  | some s => [(name, toJson s)]
  | none => []

/-- The member for properties. -/
def propertiesMember : Option (List (String × Schema)) → List (String × Json)
  | some properties => [("properties", .object (toJsonMembers properties))]
  | none => []

/-- The member for alternatives. -/
def anyOfMember : Option (List Schema) → List (String × Json)
  | some schemas => [("anyOf", .array (toJsonItems schemas))]
  | none => []

/-- Properties as members. -/
def toJsonMembers : List (String × Schema) → List (String × Json)
  | [] => []
  | (key, s) :: rest => (key, toJson s) :: toJsonMembers rest

/-- Schemas as items. -/
def toJsonItems : List Schema → List Json
  | [] => []
  | s :: rest => toJson s :: toJsonItems rest

end

end Schema

/-! ## Reading -/

/-- A value that may be absent or null. -/
def optional? {α : Type} (read : Json → Option α) : Option Json → Option (Option α)
  | none => some none
  | some .null => some none
  | some v => (read v).map some

/-- The string that a value is. -/
def Json.string? : Json → Option String
  | .string s => some s
  | _ => none

/-- The strings that a value is a list of. -/
def Json.strings? : Json → Option (List String)
  | .array items => items.mapM Json.string?
  | _ => none

/-- The number that a value is. -/
def Json.number? : Json → Option Number
  | .number n => some n
  | _ => none

/-- The natural number that a value is. -/
def Json.nat? (v : Json) : Option Nat := v.number?.bind Number.toNat?

/-- A count is read back if it has at most 64 bits. -/
theorem Json.nat?_ofNat (n : Nat) :
    (ofNat n).nat? = if n < 0x10000000000000000 then some n else none := by
  unfold ofNat
  split
  · next h =>
    have positive : 0 ≤ (n : Int) := by omega
    simp [nat?, number?, Number.toNat?, positive]
  · rfl

/-- The name that a value is: a string, or the one key of an object that holds nothing. -/
def Json.tag? : Json → Option String
  | .string s => some s
  | .object [(s, .null)] => some s
  | .object [(s, .object [])] => some s
  | _ => none

/-- The types that a value is: a name or a list of names. -/
def TypeSet.ofJson? (v : Json) : Option TypeSet :=
  match v.tag?.bind TypeName.ofName? with
  | some t => some (.one t)
  | none => match v with
    | .array items => (items.mapM fun (i : Json) => i.tag?.bind TypeName.ofName?).map .several
    | _ => none

namespace Schema

/-- What a value says where schemas are read: itself, and the schema, the schemas and the properties
that it is. -/
structure Reading where
  json : Json
  schema : Option Schema
  schemas : Option (List Schema)
  properties : Option (Entries Schema)

/-- A keyword that may be absent or null, of which the reading is given. -/
def readingOf? {α : Type} (read : Reading → Option α) : Option Reading → Option (Option α)
  | none => some none
  | some r => match r.json with
    | .null => some none
    | _ => (read r).map some

/-- The schema that keywords are, given how to find one. -/
def ofKeywords? (find : String → Option Reading) : Option Schema := do
  let json := fun name => (find name).map Reading.json
  let draft ← optional? Json.string? (json "$schema")
  let types ← optional? TypeSet.ofJson? (json "type")
  let format ← optional? Json.string? (json "format")
  let minimum ← optional? Json.number? (json "minimum")
  let maximum ← optional? Json.number? (json "maximum")
  let items ← readingOf? Reading.schema (find "items")
  let maxItems ← optional? Json.nat? (json "maxItems")
  let properties ← readingOf? Reading.properties (find "properties")
  let required ← optional? Json.strings? (json "required")
  let anyOf ← readingOf? Reading.schemas (find "anyOf")
  let not ← readingOf? Reading.schema (find "not")
  some ⟨draft, types, format, minimum, maximum, items, maxItems, properties, required, anyOf, not⟩

/-- The keywords in the order in which an array holds them. -/
def keywordNames : List String :=
  ["$schema", "type", "format", "minimum", "maximum", "items", "maxItems", "properties", "required",
    "anyOf", "not"]

/-- The schema that the items of an array are. -/
def ofItems? (rs : List Reading) : Option Schema :=
  if rs.length = keywordNames.length then
    ofKeywords? fun name => Entries.get? name (keywordNames.zip rs)
  else none

mutual

/-- The reading of a value. -/
def reading : Json → Reading
  | .array items =>
    let rs := readings items
    ⟨.array items, ofItems? rs, rs.mapM Reading.schema, none⟩
  | .object members =>
    let rs := memberReadings members
    ⟨.object members, ofKeywords? fun name => Entries.get? name rs, none,
      rs.mapM fun (key, r) => r.schema.map (key, ·)⟩
  | v => ⟨v, none, none, none⟩

/-- The readings of items. -/
def readings : List Json → List Reading
  | [] => []
  | v :: rest => reading v :: readings rest

/-- The readings of members. -/
def memberReadings : List (String × Json) → Entries Reading
  | [] => []
  | (key, v) :: rest => (key, reading v) :: memberReadings rest

end

/-- The schema that a value is. -/
def ofJson? (v : Json) : Option Schema := (reading v).schema

end Schema

end JsonShape
