import JsonShape.Json

/-!
# JSON Schema

The keywords of JSON Schema 2020-12 that describe what has been seen, one schema being a node. Every
keyword may be absent; a schema without any accepts every value.

`Schema.nullable` lets a schema accept null as well: by its types if it names any, else among its
alternatives.
-/

set_option autoImplicit false

namespace JsonShape

/-- A type of values, in the sense of JSON Schema. -/
inductive TypeName where
  | string
  | number
  | integer
  | boolean
  | object
  | array
  | null
deriving DecidableEq, Repr

namespace TypeName

/-- Every type. -/
def all : List TypeName := [string, number, integer, boolean, object, array, null]

/-- The name of a type. -/
def name : TypeName → String
  | string => "string"
  | number => "number"
  | integer => "integer"
  | boolean => "boolean"
  | object => "object"
  | array => "array"
  | null => "null"

/-- The type of a name. -/
def ofName? (name : String) : Option TypeName := all.find? fun t => t.name == name

end TypeName

/-- The types that a schema admits: one, or a list of them. -/
inductive TypeSet where
  | one (type : TypeName)
  | several (types : List TypeName)
deriving DecidableEq, Repr

namespace TypeSet

/-- The types, as a list. -/
def toList : TypeSet → List TypeName
  | one t => [t]
  | several ts => ts

/-- Whether null is among the types. -/
def admitsNull (s : TypeSet) : Bool := s.toList.contains .null

/-- The types and null. -/
def withNull (s : TypeSet) : TypeSet :=
  if s.admitsNull then s else several (s.toList ++ [.null])

end TypeSet

/-- A node of JSON Schema. -/
structure Schema where
  /-- The draft that a document follows, at its root. -/
  draft : Option String
  types : Option TypeSet
  format : Option String
  minimum : Option Number
  maximum : Option Number
  items : Option Schema
  maxItems : Option Nat
  properties : Option (List (String × Schema))
  required : Option (List String)
  anyOf : Option (List Schema)
  not : Option Schema

namespace Schema

/-! ## Nodes -/

/-- The schema that accepts every value. -/
def anything : Schema :=
  ⟨none, none, none, none, none, none, none, none, none, none, none⟩

instance : Inhabited Schema := ⟨anything⟩

/-- The schema of one type. -/
def ofType (t : TypeName) : Schema := { anything with types := some (.one t) }

/-- Strings of a format, or all strings. -/
def string (format : Option String) : Schema := { ofType .string with format := format }

/-- Arrays of which every item fits a schema. -/
def array (items : Schema) : Schema := { ofType .array with items := some items }

/-- The empty array. -/
def emptyArray : Schema := { ofType .array with maxItems := some 0 }

/-- Objects with schemas for some properties, of which some must be there. Keywords without contents
are left out. -/
def object (properties : Entries Schema) (required : List String) : Schema :=
  { ofType .object with
    properties := if properties.isEmpty then none else some properties
    required := if required.isEmpty then none else some required }

/-- Values that fit one of several schemas. -/
def alternatives (schemas : List Schema) : Schema := { anything with anyOf := some schemas }

/-- The schema that accepts no value. -/
def nothing : Schema := { anything with not := some anything }

/-- The schema with numeric bounds. -/
def withBounds (s : Schema) (minimum maximum : Number) : Schema :=
  { s with minimum := some minimum, maximum := some maximum }

/-- Whether the types of a schema admit null. -/
def admitsNull (s : Schema) : Bool :=
  match s.types with
  | some types => types.admitsNull
  | none => false

/-- The schema that accepts null as well. -/
def nullable (s : Schema) : Schema :=
  match s.types, s.anyOf with
  | some types, _ => { s with types := some types.withNull }
  | none, some schemas =>
    if schemas.any admitsNull then s
    else { s with anyOf := some (schemas ++ [ofType .null]) }
  | none, none => alternatives [s, ofType .null]

/-- The draft that documents follow. -/
def draftUri : String := "https://json-schema.org/draft/2020-12/schema"

/-- The schema as a document of its own. -/
def toDocument (s : Schema) : Schema := { s with draft := some draftUri }

end Schema

end JsonShape
