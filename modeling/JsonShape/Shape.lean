import JsonShape.Entries
import JsonShape.Interval
import JsonShape.TextFormat

/-!
# Shapes

What is known about the values seen at one position of a document: a tree. An object shape keeps its
keys in two groups: those that every object had, and those that some object lacked.
-/

set_option autoImplicit false

namespace JsonShape

/-- The keys of the objects seen at a position, with what is known about their values. -/
structure Fields (α : Type) where
  /-- The keys that every object had. -/
  required : List (String × α)
  /-- The keys that some object lacked. -/
  optional : List (String × α)
deriving DecidableEq

/-- What is known about the values seen at a position. -/
inductive Shape where
  /-- No value has been seen. -/
  | unknown
  | boolean
  /-- Integers, within a range. -/
  | int (range : Interval)
  /-- Numbers, within a range; at least one was not an integer. -/
  | float (range : Interval)
  /-- Strings, and the format that all of them have. -/
  | string (format : Option TextFormat)
  /-- Arrays, and what is known about all their items. -/
  | array (items : Shape)
  | object (fields : Fields Shape)
  /-- Null, beside what `inner` describes. -/
  | nullable (inner : Shape)
  /-- Values of several slots, one shape for each, in the order in which they were first seen. -/
  | anyOf (alternatives : List Shape)

instance : Inhabited Shape := ⟨.unknown⟩

/-! ## Fields -/

namespace Fields

variable {α : Type}

/-- No keys. -/
def empty : Fields α := ⟨[], []⟩

/-- What is known about a key. -/
def get? (f : Fields α) (key : String) : Option α :=
  (Entries.get? key f.required).or (Entries.get? key f.optional)

/-- Whether every object had a key. -/
def isRequired (f : Fields α) (key : String) : Bool := Entries.has key f.required

/-- The number of keys. -/
def size (f : Fields α) : Nat := f.required.length + f.optional.length

/-- Whether there are no keys. -/
def isEmpty (f : Fields α) : Bool := f.required.isEmpty && f.optional.isEmpty

end Fields

/-! ## Forms -/

/-- The ways in which a shape can be made up. -/
inductive Form where
  | unknown
  | boolean
  | int
  | float
  | string
  | array
  | object
  | nullable
  | any
deriving DecidableEq, Repr

namespace Form

/-- Every form. -/
def all : List Form := [unknown, boolean, int, float, string, array, object, nullable, any]

/-- The name of a form. -/
def name : Form → String
  | unknown => "unknown"
  | boolean => "boolean"
  | int => "int"
  | float => "float"
  | string => "string"
  | array => "array"
  | object => "object"
  | nullable => "nullable"
  | any => "any"

/-- The form of a name. -/
def ofName? (name : String) : Option Form := all.find? fun form => form.name == name

end Form

/-! ## Slots -/

/-- The groups of values that get one alternative each. -/
inductive Slot where
  | boolean
  | number
  | string
  | array
  | object
deriving DecidableEq, Repr

namespace Shape

/-- The slot of the values that a shape describes, if they are all of one and not null. -/
def slot? : Shape → Option Slot
  | boolean => some .boolean
  | int _ | float _ => some .number
  | string _ => some .string
  | array _ => some .array
  | object _ => some .object
  | unknown | nullable _ | anyOf _ => none

/-- The form of a shape. -/
def form : Shape → Form
  | unknown => .unknown
  | boolean => .boolean
  | int _ => .int
  | float _ => .float
  | string _ => .string
  | array _ => .array
  | object _ => .object
  | nullable _ => .nullable
  | anyOf _ => .any

/-- The name of a shape's form. -/
def kindName (t : Shape) : String := t.form.name

/-- Whether no value has been seen. -/
def isUnknown : Shape → Bool
  | unknown => true
  | _ => false

/-- Whether null has been seen beside other values, or alone. -/
def isNullable : Shape → Bool
  | nullable _ => true
  | _ => false

/-! ## Equality -/

mutual

/-- Whether two shapes are the same. -/
def beq : Shape → Shape → Bool
  | unknown, unknown => true
  | boolean, boolean => true
  | int r, int s => decide (r = s)
  | float r, float s => decide (r = s)
  | string f, string g => decide (f = g)
  | array s, array t => beq s t
  | object ⟨r, o⟩, object ⟨r', o'⟩ => beqEntries r r' && beqEntries o o'
  | nullable s, nullable t => beq s t
  | anyOf ss, anyOf ts => beqAll ss ts
  | _, _ => false

/-- `beq`, key by key. -/
def beqEntries : List (String × Shape) → List (String × Shape) → Bool
  | [], [] => true
  | (j, s) :: ss, (k, t) :: ts => j == k && beq s t && beqEntries ss ts
  | _, _ => false

/-- `beq`, one by one. -/
def beqAll : List Shape → List Shape → Bool
  | [], [] => true
  | s :: ss, t :: ts => beq s t && beqAll ss ts
  | _, _ => false

end

instance : BEq Shape := ⟨beq⟩

end Shape

end JsonShape
