import JsonShape.Json
import JsonShape.Text.Ascii
import JsonShape.Text.Fields

/-!
# Record paths

A record path leads from a document to the place of its records: names separated by points, each
with an index in brackets if it is an array that is entered. A negative index counts from the end.
`[*]` stands for all items of the place that has been reached, and ends the path.
-/

set_option autoImplicit false

namespace JsonShape

/-- What is taken of the place that a name leads to. -/
inductive Selector where
  /-- One item of an array. -/
  | item (index : Int)
  /-- All of it. -/
  | all
deriving DecidableEq, Repr

/-- A step of a record path; at least one of its parts is there. -/
structure PathStep where
  name : Option String
  selector : Option Selector
deriving DecidableEq, Repr

namespace PathStep

/-- The index that characters spell: digits after an optional sign, of at most 64 bits. -/
def index? (cs : List Char) : Option Int :=
  let (negative, digits) := match cs with
    | '-' :: digits => (true, digits)
    | '+' :: digits => (false, digits)
    | digits => (false, digits)
  if digits.isEmpty || !digits.all isAsciiDigit then none
  else
    let value := Double.signed negative (digitsValue digits)
    if -0x8000000000000000 ≤ value ∧ value < 0x8000000000000000 then some value else none

/-- What characters between brackets select. -/
def selector? (cs : List Char) : Option Selector :=
  if cs = ['*'] then some .all else (index? cs).map .item

/-- The step that characters spell. -/
def ofChars? (cs : List Char) : Option PathStep :=
  match cs.span (· != '[') with
  | (name, _ :: inside) =>
    if inside.getLast? = some ']' then
      (selector? inside.dropLast).map fun s =>
        ⟨if name.isEmpty then none else some (String.ofList name), some s⟩
    else none
  | (name, []) => some ⟨some (String.ofList name), none⟩

end PathStep

namespace Json

/-- The place that a name leads to; without a name one stays. -/
def child? (name : Option String) (v : Json) : Option Json :=
  match name with
  | some key => v.get? key
  | none => some v

/-- An item of an array, counted from its end if the index is negative. -/
def item? (index : Int) : Json → Option Json
  | array items =>
    let place := if index < 0 then items.length + index else index
    if 0 ≤ place then items[place.toNat]? else none
  | _ => none

end Json

namespace RecordPath

/-- The place that the steps spelled by `parts` lead to. -/
def walk : List (List Char) → Json → Option Json
  | [], v => some v
  | part :: parts, v => do
    let step ← PathStep.ofChars? part
    let place ← v.child? step.name
    match step.selector with
    | none => walk parts place
    | some .all => some place
    | some (.item index) => (place.item? index).bind (walk parts)

/-- The steps of a path, `$` standing for the document; none if it is the document itself. -/
def parts (path : String) : List (List Char) :=
  let cs := match path.toList with
    | '$' :: '.' :: cs => cs
    | cs => cs
  if cs = [] ∨ cs = ['$'] then [] else fields '.' cs

/-- The place that a path leads to. -/
def find? (path : String) (v : Json) : Option Json := walk (parts path) v

/-- The records at a place: the items of an array, or the value itself. -/
def recordsAt : Option Json → List Json
  | some (.array items) => items
  | some v => [v]
  | none => []

end RecordPath

end JsonShape
