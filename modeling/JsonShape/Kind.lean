import JsonShape.Json

/-!
# Kinds of values

What a JSON value is: numbers are of two kinds, integers and others. A number spelled with a
fraction or an exponent is an integer too if it is whole and of at most `2 ^ 53 - 1` in size.
-/

set_option autoImplicit false

namespace JsonShape

/-- Whether a number is an integer, however it is spelled. -/
def Number.isIntegral : Number → Bool
  | integer .. => true
  | double value _ => value.isWhole && value.isSafe

/-- The kind of a value. -/
inductive Kind where
  | null
  | bool
  | int
  | float
  | string
  | array
  | object
deriving DecidableEq, Repr

namespace Kind

/-- The name of a kind. -/
def name : Kind → String
  | null => "null"
  | bool => "bool"
  | int => "int"
  | float => "float"
  | string => "string"
  | array => "array"
  | object => "object"

end Kind

/-- The kind of a value. -/
def Json.kind : Json → Kind
  | null => .null
  | bool _ => .bool
  | number n => if n.isIntegral then .int else .float
  | string _ => .string
  | array _ => .array
  | object _ => .object

end JsonShape
