import JsonShape.Double

/-!
# Intervals

The least and the greatest of the numbers seen so far. Before the first number the ends are the
wrong way round, so that any number replaces both.
-/

set_option autoImplicit false

namespace JsonShape

/-- The closed interval from `lo` to `hi`. -/
structure Interval where
  lo : Double
  hi : Double
deriving DecidableEq

namespace Interval

/-- The interval of no numbers. -/
def empty : Interval := ⟨.infinite false, .infinite true⟩

/-- The interval with a number taken in. -/
def extend (i : Interval) (x : Double) : Interval := ⟨i.lo.min x, i.hi.max x⟩

/-- The interval of one number. -/
def single (x : Double) : Interval := empty.extend x

/-- The least interval that covers both. -/
def union (i j : Interval) : Interval := ⟨i.lo.min j.lo, i.hi.max j.hi⟩

/-- Whether the ends are the wrong way round. -/
def isEmpty (i : Interval) : Bool := i.hi.lt i.lo

/-- Whether the interval holds exactly one number. -/
def isPoint (i : Interval) : Bool := !i.isEmpty && i.lo.eqv i.hi

/-- Whether a number lies between the ends. -/
def contains (i : Interval) (x : Double) : Bool := i.lo.le x && x.le i.hi

/-- Whether both ends are finite. -/
def isFinite (i : Interval) : Bool := i.lo.isFinite && i.hi.isFinite

/-- Whether both ends lie where every whole number is a double of its own. -/
def isSafe (i : Interval) : Bool := i.lo.isSafe && i.hi.isSafe

end Interval

end JsonShape
