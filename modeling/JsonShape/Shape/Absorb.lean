import JsonShape.Detectors
import JsonShape.Kind
import JsonShape.Shape

/-!
# Taking in a value

`Shape.absorb` takes one more value into a shape. Null makes the shape nullable, once. A value of
another slot than those known so far adds an alternative; a value of a known slot widens the shape
of that slot: integers become numbers, a format stays while all strings have it, items of arrays are
taken in one after another, and a key that an object lacks is optional from then on.
-/

set_option autoImplicit false

namespace JsonShape

namespace Shape

/-! ## One slot -/

/-- The alternatives with the first shape of a slot grown, or with a new shape at the end. -/
def growFirst (slot : Slot) (grow : Option Shape → Shape) : List Shape → List Shape
  | [] => [grow none]
  | t :: ts => if t.slot? = some slot then grow (some t) :: ts else t :: growFirst slot grow ts

/-- A shape with a value of a slot taken in: `grow` takes it into the shape that the slot has so
far, if it has one. -/
def receive (slot : Slot) (grow : Option Shape → Shape) : Shape → Shape
  | nullable inner => nullable (receive slot grow inner)
  | unknown => grow none
  | anyOf alternatives => anyOf (growFirst slot grow alternatives)
  | t => if t.slot? = some slot then grow (some t) else anyOf [t, grow none]

/-- A shape with null taken in. -/
def receiveNull : Shape → Shape
  | nullable inner => nullable inner
  | t => nullable t

/-! ## Leaves -/

/-- The shape of numbers with one more. -/
def growNumber (n : Number) : Option Shape → Shape
  | some (int range) =>
    if n.isIntegral then int (range.extend n.toDouble) else float (range.extend n.toDouble)
  | some (float range) => float (range.extend n.toDouble)
  | _ => if n.isIntegral then int (.single n.toDouble) else float (.single n.toDouble)

/-- The shape of strings with one more, of which the format is given. -/
def growString (format : Option TextFormat) : Option Shape → Shape
  | some (string known) => string (if known = format then known else none)
  | _ => string format

/-! ## Fields -/

end Shape

namespace Fields

/-- The fields once an object has come whose keys are those of `members`: what it lacks is
optional. -/
def retire {β : Type} (members : Entries β) (f : Fields Shape) : Fields Shape :=
  ⟨f.required.filter fun e => Entries.has e.1 members,
    Entries.union f.optional (f.required.filter fun e => !Entries.has e.1 members)⟩

/-- The fields with a change to what is known about a key; a new key is optional. -/
def change (key : String) (widen : Shape → Shape) (f : Fields Shape) : Fields Shape :=
  if Entries.has key f.required then
    { f with required := Entries.update key widen f.required }
  else if Entries.has key f.optional then
    { f with optional := Entries.update key widen f.optional }
  else { f with optional := Entries.insert key (widen .unknown) f.optional }

end Fields

namespace Shape

/-! ## Values -/

mutual

/-- A shape with a value taken in. -/
def absorb (d : Detectors) : Json → Shape → Shape
  | .null, t => receiveNull t
  | .bool _, t => receive .boolean (fun _ => boolean) t
  | .number n, t => receive .number (growNumber n) t
  | .string s, t => receive .string (growString (d.detect s)) t
  | .array items, t =>
    receive .array
      (fun
        | some (array s) => array (absorbItems d items s)
        | _ => array (absorbItems d items unknown)) t
  | .object members, t =>
    receive .object
      (fun
        | some (object f) => object (absorbMembers d members (f.retire members))
        | _ => object ⟨shapesOf d members, []⟩) t

/-- A shape with every item of an array taken in, in order. -/
def absorbItems (d : Detectors) : List Json → Shape → Shape
  | [], t => t
  | v :: rest, t => absorbItems d rest (absorb d v t)

/-- Fields with every member of an object taken in. -/
def absorbMembers (d : Detectors) : List (String × Json) → Fields Shape → Fields Shape
  | [], f => f
  | (key, v) :: rest, f => absorbMembers d rest (f.change key (absorb d v))

/-- The members of an object, each with the shape of its value. -/
def shapesOf (d : Detectors) : List (String × Json) → Entries Shape
  | [] => []
  | (key, v) :: rest => (key, absorb d v unknown) :: shapesOf d rest

end

/-- A shape with values taken in, in order. -/
def absorbAll (d : Detectors) (values : List Json) (t : Shape) : Shape :=
  values.foldl (fun s v => absorb d v s) t

end Shape

end JsonShape
