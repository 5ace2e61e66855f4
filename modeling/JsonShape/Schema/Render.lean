import JsonShape.Schema
import JsonShape.Shape

/-!
# The schema of a shape

`Shape.toSchema` describes a shape in the terms of JSON Schema. Where nothing has been seen, nothing
is accepted; a shape that is not nullable does not accept null. `Shape.toDocument` adds the draft if
the options ask for it.
-/

set_option autoImplicit false

namespace JsonShape

/-- How a shape is rendered. -/
structure RenderOptions where
  /-- Whether the root names the draft. -/
  document : Bool
  /-- Whether numbers that differed get their least and greatest one as bounds. -/
  bounds : Bool
deriving DecidableEq, Repr

namespace RenderOptions

/-- Neither a draft nor bounds. -/
def bare : RenderOptions := ⟨false, false⟩

instance : Inhabited RenderOptions := ⟨bare⟩

end RenderOptions

/-! ## Bounds -/

/-- Whether a range is written as bounds: asked for, of more than one number, and exact, since a
double past `2 ^ 53` may lie inside the range of the numbers that it stands for. -/
def Interval.isBounding (range : Interval) (options : RenderOptions) : Bool :=
  options.bounds && !range.isEmpty && !range.isPoint && range.isSafe

/-- The bounds of a range of integers. -/
def Interval.intBounds? (range : Interval) (options : RenderOptions) : Option (Number × Number) :=
  if range.isBounding options then do
    let lo ← Number.ofInt? range.lo.wholePart
    let hi ← Number.ofInt? range.hi.wholePart
    some (lo, hi)
  else none

/-- The bounds of a range of doubles. -/
def Interval.floatBounds? (range : Interval) (options : RenderOptions) :
    Option (Number × Number) :=
  if range.isBounding options then do
    let lo ← Number.ofDouble? range.lo
    let hi ← Number.ofDouble? range.hi
    some (lo, hi)
  else none

/-- A schema with bounds, if there are any. -/
def Schema.withBounds? (s : Schema) : Option (Number × Number) → Schema
  | some (lo, hi) => s.withBounds lo hi
  | none => s

/-! ## Schemas -/

namespace Shape

mutual

/-- The schema of a shape, without a draft. -/
def toSchema (options : RenderOptions) : Shape → Schema
  | unknown => .nothing
  | boolean => .ofType .boolean
  | int range => (Schema.ofType .integer).withBounds? (range.intBounds? options)
  | float range => (Schema.ofType .number).withBounds? (range.floatBounds? options)
  | string format => .string (format.bind TextFormat.schemaName?)
  | array items => if items.isUnknown then .emptyArray else .array (toSchema options items)
  | object ⟨required, optional⟩ =>
    .object
      (Entries.union (Entries.ofList (toSchemas options required)) (toSchemas options optional))
      (Entries.keys required)
  | nullable inner => if inner.isUnknown then .ofType .null else (toSchema options inner).nullable
  | anyOf alternatives =>
    match toAlternatives options alternatives with
    | [only] => only
    | schemas => .alternatives schemas

/-- The schemas of properties. -/
def toSchemas (options : RenderOptions) : List (String × Shape) → Entries Schema
  | [] => []
  | (key, t) :: rest => (key, toSchema options t) :: toSchemas options rest

/-- The schemas of alternatives. -/
def toAlternatives (options : RenderOptions) : List Shape → List Schema
  | [] => []
  | t :: rest => toSchema options t :: toAlternatives options rest

end

/-- The schema of a shape as the options ask for it. -/
def toDocument (options : RenderOptions) (t : Shape) : Schema :=
  if options.document then (t.toSchema options).toDocument else t.toSchema options

end Shape

end JsonShape
