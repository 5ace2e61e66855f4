import JsonShape.Double.Shortest
import JsonShape.Shape

/-!
# Well-formed shapes

The rules that every shape built from values keeps, and that a shape from elsewhere must be checked
for: nothing is nullable twice, alternatives are two or more of different slots, the two groups of
keys are disjoint, a property is known, and ranges are finite and not empty. `Shape.check` gives the
first breach of a rule, with the path to it.
-/

set_option autoImplicit false

namespace JsonShape

/-- What is wrong at one place of a shape. -/
inductive Fault where
  | badRange (range : Interval)
  | doubleKey (key : String)
  | unknownProperty
  | doubleNullable
  | tooFewAlternatives (count : Nat)
  | nestedAlternatives
  | nullableAlternative
  | unknownAlternative
  | duplicateAlternative (kindName : String)

/-- A fault and the path to its place. -/
structure Breach where
  path : String
  fault : Fault

namespace Fault

/-- The text of a number in a message. -/
def numberText (x : Double) : String := String.ofList (x.text Double.plain)

/-- What a fault says. -/
def message : Fault → String
  | badRange range =>
    "invalid range [" ++ numberText range.lo ++ ", " ++ numberText range.hi ++ "]"
  | doubleKey key => "key '" ++ key ++ "' is both required and optional"
  | unknownProperty => "unknown object property"
  | doubleNullable => "nullable wraps another nullable"
  | tooFewAlternatives count =>
    "any with " ++ String.ofList (Nat.toDigits 10 count) ++ " alternative(s)"
  | nestedAlternatives => "any nested inside any"
  | nullableAlternative => "nullable inside any"
  | unknownAlternative => "unknown inside any"
  | duplicateAlternative kindName => "duplicate " ++ kindName ++ " alternative"

end Fault

/-- What a breach says: its path and its fault. -/
def Breach.message (b : Breach) : String := b.path ++ ": " ++ b.fault.message

namespace Shape

/-- What is wrong with a range. -/
def rangeFault (range : Interval) : Option Fault :=
  if range.isEmpty || !range.isFinite then some (.badRange range) else none

/-- What is wrong with an alternative, apart from what is inside it, after alternatives of the slots
`seen`. -/
def alternativeFault (seen : List (Option Slot)) (t : Shape) : Option Fault :=
  match t with
  | anyOf _ => some .nestedAlternatives
  | nullable _ => some .nullableAlternative
  | unknown => some .unknownAlternative
  | t => if seen.contains t.slot? then some (.duplicateAlternative t.kindName) else none

mutual

/-- The first breach in a shape at a path. -/
def breachAt (path : String) : Shape → Option Breach
  | unknown | boolean | string _ => none
  | int range | float range => (rangeFault range).map (⟨path, ·⟩)
  | array items => breachAt (path ++ "[]") items
  | object ⟨required, optional⟩ =>
    match (Entries.keys required).find? fun key => Entries.has key optional with
    | some key => some ⟨path, .doubleKey key⟩
    | none => (breachOfProperties path required).or (breachOfProperties path optional)
  | nullable inner =>
    if inner.isNullable then some ⟨path, .doubleNullable⟩ else breachAt path inner
  | anyOf alternatives =>
    if alternatives.length < 2 then some ⟨path, .tooFewAlternatives alternatives.length⟩
    else breachOfAlternatives path 0 [] alternatives

/-- The first breach in the properties of an object. -/
def breachOfProperties (path : String) : List (String × Shape) → Option Breach
  | [] => none
  | (key, t) :: rest =>
    let here := path ++ "." ++ key
    (if t.isUnknown then some ⟨here, .unknownProperty⟩ else breachAt here t).or
      (breachOfProperties path rest)

/-- The first breach in alternatives, from the one numbered `index` on. -/
def breachOfAlternatives (path : String) (index : Nat) (seen : List (Option Slot)) :
    List Shape → Option Breach
  | [] => none
  | t :: rest =>
    match alternativeFault seen t with
    | some fault => some ⟨path, fault⟩
    | none =>
      (breachAt (path ++ "|" ++ String.ofList (Nat.toDigits 10 index)) t).or
        (breachOfAlternatives path (index + 1) (t.slot? :: seen) rest)

end

/-- The first breach in a shape; none if it is well-formed. -/
def check (t : Shape) : Option Breach := breachAt "$" t

end Shape

end JsonShape
