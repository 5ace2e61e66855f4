import JsonShape.Double
import JsonShape.Entries

/-!
# JSON values

A number is an integer of 64 bits or a finite double, as its spelling decides; `Number.position`
gives its exact value in the units of `Double`, so that numbers of both kinds are compared without
rounding.

An object is a list of members. `Json.Canonical` values have them ordered by key, none twice, at
every depth: those are the values that documents denote. A list in another order is used where a
text keeps an order of its own; `Json.canonical` puts it in order.
-/

set_option autoImplicit false

namespace JsonShape

/-! ## Numbers -/

/-- A JSON number. -/
inductive Number where
  | integer (value : Int) (fits : -0x8000000000000000 ≤ value ∧ value < 0x10000000000000000)
  | double (value : Double) (finite : value.isFinite = true)
deriving DecidableEq

namespace Number

/-- The exact value, counted in the units of `Double`. -/
def position : Number → Int
  | integer value _ => value * Double.unitsPerOne
  | double value _ => value.position.getD 0

/-- The nearest double. -/
def toDouble : Number → Double
  | integer value _ => Double.ofInt value
  | double value _ => value

/-- An integer as a number, if it has at most 64 bits. -/
def ofInt? (value : Int) : Option Number :=
  if fits : -0x8000000000000000 ≤ value ∧ value < 0x10000000000000000 then
    some (.integer value fits)
  else none

/-- A double as a number, if it is finite. -/
def ofDouble? (value : Double) : Option Number :=
  if finite : value.isFinite = true then some (.double value finite) else none

/-- The value of a number that is spelled as an integer and is not negative. -/
def toNat? : Number → Option Nat
  | integer value _ => if 0 ≤ value then some value.toNat else none
  | double .. => none

end Number

/-! ## Values -/

/-- A JSON value. -/
inductive Json where
  | null
  | bool (value : Bool)
  | number (value : Number)
  | string (value : String)
  | array (items : List Json)
  | object (members : List (String × Json))

instance : Inhabited Json := ⟨.null⟩

namespace Json

/-- The value of a member of an object. -/
def get? (key : String) : Json → Option Json
  | object members => Entries.get? key members
  | _ => none

/-- A natural number below `2 ^ 64` as a value. -/
def ofNat (n : Nat) : Json :=
  if fits : n < 0x10000000000000000 then .number (.integer n ⟨by omega, by omega⟩) else .null

/-- A double as a value; what is not finite has no number and becomes null. -/
def ofDouble (x : Double) : Json :=
  match Number.ofDouble? x with
  | some exact => .number exact
  | none => .null

/-! ## Equality -/

mutual

/-- Whether two values are the same, members in the same order. -/
def beq : Json → Json → Bool
  | null, null => true
  | bool a, bool b => a == b
  | number a, number b => decide (a = b)
  | string a, string b => a == b
  | array a, array b => beqItems a b
  | object a, object b => beqMembers a b
  | _, _ => false

/-- `beq`, item by item. -/
def beqItems : List Json → List Json → Bool
  | [], [] => true
  | a :: as, b :: bs => beq a b && beqItems as bs
  | _, _ => false

/-- `beq`, member by member. -/
def beqMembers : List (String × Json) → List (String × Json) → Bool
  | [], [] => true
  | (j, a) :: as, (k, b) :: bs => j == k && beq a b && beqMembers as bs
  | _, _ => false

end

instance : BEq Json := ⟨beq⟩

/-! ## The order of members -/

mutual

/-- Every object in the value has its members in order, none twice. -/
def Canonical : Json → Prop
  | array items => CanonicalItems items
  | object members => Entries.Ordered members ∧ CanonicalMembers members
  | _ => True

/-- `Canonical`, for each item. -/
def CanonicalItems : List Json → Prop
  | [] => True
  | v :: rest => Canonical v ∧ CanonicalItems rest

/-- `Canonical`, for the value of each member. -/
def CanonicalMembers : List (String × Json) → Prop
  | [] => True
  | (_, v) :: rest => Canonical v ∧ CanonicalMembers rest

end

mutual

/-- The value with the members of every object in order; of members with one key the last stands. -/
def canonical : Json → Json
  | array items => array (canonicalItems items)
  | object members => object (Entries.ofList (canonicalMembers members))
  | other => other

/-- `canonical`, for each item. -/
def canonicalItems : List Json → List Json
  | [] => []
  | v :: rest => canonical v :: canonicalItems rest

/-- `canonical`, for the value of each member. -/
def canonicalMembers : List (String × Json) → List (String × Json)
  | [] => []
  | (k, v) :: rest => (k, canonical v) :: canonicalMembers rest

end

end Json

end JsonShape
