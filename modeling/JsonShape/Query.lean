import JsonShape.Json
import JsonShape.Pattern.Reader

/-!
# Queries

A query selects any number of values of a document, step by step: each step is applied to all values
that the steps before it have found, and the results are put together in order. A step that finds
nothing at a value leaves a gap there. A gap counts for nothing at the end, but `$` leads back to
the document even from a gap.
-/

set_option autoImplicit false

namespace JsonShape

namespace Query

/-- How two operands are compared. -/
inductive Comparison where
  | equal
  | unequal
  | less
  | lessOrEqual
  | greater
  | greaterOrEqual
  /-- Whether a pattern is found in a text. -/
  | pattern
  | inside
  | notInside
  | size
  | noneOf
  | anyOf
  | subsetOf
deriving DecidableEq, Repr

mutual

/-- A step of a query. -/
inductive Step where
  /-- Back to the document. -/
  | root
  /-- The value itself, and steps from there. -/
  | current (steps : List Step)
  /-- A member of an object. -/
  | key (name : String)
  /-- Several members of an object. -/
  | keys (names : List String)
  /-- An item of an array. -/
  | index (index : Nat)
  /-- Several items of an array. -/
  | indexes (numbers : List Number)
  /-- Some items of an array, from one to before another; zero stands for the end. -/
  | slice (start stop : Int) (step : Nat)
  /-- All items or members. -/
  | all
  /-- A member of the value or of anything inside it. -/
  | anywhere (name : String)
  /-- Everything inside the value. -/
  | everything
  /-- The items, or the value itself, that meet a condition. -/
  | filter (condition : Condition)
  /-- A length. -/
  | length

/-- A side of a comparison. -/
inductive Operand where
  | literal (value : Json)
  | path (steps : List Step)

/-- A condition on a value. -/
inductive Condition where
  /-- The operand finds something. -/
  | found (operand : Operand)
  | compare (left : Operand) (comparison : Comparison) (right : Operand)
  | and (first second : Condition)
  | or (first second : Condition)
  | not (inner : Condition)

end

/-- What a step has found at one place. -/
inductive Found where
  | value (v : Json)
  /-- A length, which is no part of the document. -/
  | count (n : Nat)
  | gap

namespace Found

/-- The part of the document that has been found. -/
def value? : Found → Option Json
  | value v => some v
  | _ => none

/-- What has been found, as a value. -/
def result? : Found → Option Json
  | value v => some v
  | count n => some (.ofNat n)
  | gap => none

/-- Whether there is no gap. -/
def isResult (f : Found) : Bool := f.result?.isSome

end Found

/-! ## Inside a value -/

mutual

/-- Everything inside a value, a container before its contents. -/
def descendants : Json → List Json
  | .array items => descendantsOfItems items
  | .object members => descendantsOfMembers members
  | _ => []

/-- Items and everything inside them. -/
def descendantsOfItems : List Json → List Json
  | [] => []
  | v :: rest => v :: (descendants v ++ descendantsOfItems rest)

/-- Values of members and everything inside them. -/
def descendantsOfMembers : List (String × Json) → List Json
  | [] => []
  | (_, v) :: rest => v :: (descendants v ++ descendantsOfMembers rest)

end

/-- The items or members of a value. -/
def children : Json → List Json
  | .array items => items
  | .object members => members.map Prod.snd
  | _ => []

/-- Where a slice begins or ends in an array of some length. -/
def sliceEnd? (length : Nat) (i : Int) : Option Nat :=
  let place := if i < 0 then length + i else i
  if 0 ≤ place ∧ place ≤ length then some place.toNat else none

/-- Every item at a multiple of `step`. -/
def everyNth (step : Nat) (items : List Json) : List Json :=
  (items.zipIdx.filter fun e => e.2 % step == 0).map Prod.fst

/-- The items of a slice. -/
def sliceOf (start stop : Int) (step : Nat) (items : List Json) : List Json :=
  match sliceEnd? items.length start, sliceEnd? items.length stop with
  | some first, some last =>
    everyNth step ((items.take (if last = 0 then items.length else last)).drop first)
  | _, _ => []

/-- An item of an array. -/
def itemOf? (i : Nat) : Json → Option Json
  | .array items => items[i]?
  | _ => none

/-- What has been found, a gap if that is nothing. -/
def orGap (values : List Json) : List Found :=
  if values.isEmpty then [.gap] else values.map .value

/-- What a step finds at a value, a gap at a gap. -/
def atValue (step : Json → List Found) : Found → List Found
  | .value v => step v
  | _ => [.gap]

/-- The length at the end of a query: of the array found first, or how many have been found. -/
def lengthOf (counting : Bool) (found : List Found) : Found :=
  if found.all fun f => !f.isResult then .gap
  else if counting then .count (found.filter Found.isResult).length
  else match found with
    | .value (.array items) :: _ => .count items.length
    | _ => .gap

/-! ## Comparisons -/

/-- Whether numbers are the same: of one kind and equal. -/
def sameNumber : Number → Number → Bool
  | .integer m _, .integer n _ => m == n
  | .double x _, .double y _ => x.eqv y
  | _, _ => false

mutual

/-- Whether values are the same. -/
def same : Json → Json → Bool
  | .null, .null => true
  | .bool a, .bool b => a == b
  | .number m, .number n => sameNumber m n
  | .string a, .string b => a == b
  | .array a, .array b => sameItems a b
  | .object a, .object b => sameMembers a b
  | _, _ => false

/-- `same`, item by item. -/
def sameItems : List Json → List Json → Bool
  | [], [] => true
  | a :: as, b :: bs => same a b && sameItems as bs
  | _, _ => false

/-- `same`, member by member. -/
def sameMembers : List (String × Json) → List (String × Json) → Bool
  | [], [] => true
  | (j, a) :: as, (k, b) :: bs => j == k && same a b && sameMembers as bs
  | _, _ => false

end

/-- Whether both sides found the same values. -/
def areEqual (left right : List Json) : Bool := sameItems left right

/-- Whether each side is one number and the left one is less. -/
def isLess (left right : List Json) : Bool :=
  match left, right with
  | [.number m], [.number n] => m.toDouble.lt n.toDouble
  | _, _ => false

/-- Whether some value on the left is in the array or object on the right. -/
def isInside (left right : List Json) : Bool :=
  match right.head? with
  | some (.array items) => left.any fun v => items.any (same v)
  | some (.object members) => left.any fun v => members.any fun m => same v m.2
  | _ => false

/-- Whether a value, or an item of it, is in the array on the right; of no value, it is. -/
def hasAnyOf (left right : List Json) : Bool :=
  left.isEmpty || match right.head? with
    | some (.array items) => left.any fun
      | .array vs => vs.any fun v => items.any (same v)
      | v => items.any (same v)
    | _ => false

/-- Whether the array on the left is part of the array on the right; no value is. -/
def isSubset (left right : List Json) : Bool :=
  left.isEmpty || match left.head?, right.head? with
    | some (.array vs), some (.array items) =>
      !items.isEmpty && vs.all fun v => items.any (same v)
    | _, _ => false

/-- Whether every value on the left has the size on the right: bytes, items or members. -/
def hasSize (left right : List Json) : Bool :=
  match right.head? with
  | some (.number n) =>
    let size := n.toDouble.wholePart.toNat
    left.all fun
      | .string s => s.utf8ByteSize == size
      | .array items => items.length == size
      | .object members => members.length == size
      | _ => false
  | _ => false

/-- Whether the pattern on the right is found in some text on the left. -/
def hasPattern (left right : List Json) : Bool :=
  match right.head? with
  | some (.string text) => match Pattern.ofText? text with
    | some p => left.any fun
      | .string s => p.isFoundIn s
      | _ => false
    | none => false
  | _ => false

/-- Whether a comparison holds. -/
def Comparison.holds (left right : List Json) : Comparison → Bool
  | equal => areEqual left right
  | unequal => !areEqual left right
  | less => isLess left right
  | lessOrEqual => isLess left right || areEqual left right
  | greater => isLess right left
  | greaterOrEqual => isLess right left || areEqual left right
  | pattern => hasPattern left right
  | inside => isInside left right
  | notInside => !isInside left right
  | size => hasSize left right
  | noneOf => !hasAnyOf left right
  | anyOf => hasAnyOf left right
  | subsetOf => isSubset left right

/-! ## Steps -/

/-- Whether steps lead to several results: of the steps to one item and those to several, the last
one decides. -/
def areSeveral (several : Bool) : List Step → Bool
  | [] => several
  | .keys _ :: rest => areSeveral true rest
  | .indexes _ :: rest => areSeveral true rest
  | .slice _ _ _ :: rest => areSeveral true rest
  | .filter _ :: rest => areSeveral true rest
  | .all :: rest => areSeveral true rest
  | .index _ :: rest => areSeveral false rest
  | _ :: rest => areSeveral several rest

/-- Whether the length at the end of more than two steps counts several results. -/
def counts (steps : List Step) : Bool :=
  match steps.reverse with
  | .length :: _ :: _ :: _ => areSeveral false steps
  | _ => false

mutual

/-- What a step finds from what the steps before it have found. -/
def applyStep (document : Json) (counting : Bool) (found : List Found) : Step → List Found
  | .root => found.map fun _ => .value document
  | .current steps => found.flatMap fun f => applySteps document (counts steps) [f] steps
  | .key name => found.flatMap (atValue fun v => orGap (v.get? name).toList)
  | .keys names =>
    found.flatMap fun f => names.flatMap fun name =>
      atValue (fun v => orGap (v.get? name).toList) f
  | .index i => found.flatMap (atValue fun v => orGap (itemOf? i v).toList)
  | .indexes numbers =>
    found.flatMap fun f => numbers.flatMap fun n =>
      atValue (fun v => orGap (n.toNat?.bind fun i => itemOf? i v).toList) f
  | .slice start stop step => found.flatMap (atValue fun
    | .array items => orGap (sliceOf start stop step items)
    | _ => [.gap])
  | .all => found.flatMap (atValue fun v => orGap (children v))
  | .anywhere name =>
    found.flatMap (atValue fun v => orGap ((v :: descendants v).filterMap (Json.get? name)))
  | .everything => found.flatMap (atValue fun v => orGap (descendants v))
  | .filter condition => found.flatMap (atValue fun
    | .array items => orGap (items.filter fun v => meets document v condition)
    | v => orGap ([v].filter fun v => meets document v condition))
  | .length => [lengthOf counting found]

/-- What steps find, one after another. -/
def applySteps (document : Json) (counting : Bool) (found : List Found) : List Step → List Found
  | [] => found
  | step :: rest => applySteps document counting (applyStep document counting found step) rest

/-- The parts of the document that an operand finds from a value, or its literal value. -/
def operandValues (document v : Json) : Operand → List Json
  | .literal value => [value]
  | .path steps =>
    (applySteps document (counts steps) [.value v] steps).filterMap Found.value?

/-- Whether a value meets a condition. -/
def meets (document v : Json) : Condition → Bool
  | .found operand => !(operandValues document v operand).isEmpty
  | .compare left comparison right =>
    comparison.holds (operandValues document v left) (operandValues document v right)
  | .and first second => meets document v first && meets document v second
  | .or first second => meets document v first || meets document v second
  | .not inner => !meets document v inner

end

/-- The values that a query selects from a document. -/
def select (steps : List Step) (document : Json) : List Json :=
  (applySteps document (counts steps) [.value document] steps).filterMap Found.result?

end Query

end JsonShape
