import JsonShape.Double

/-!
# Doubles scaled by powers of ten

`Double.scaled` takes a whole number times a power of ten in the arithmetic of doubles: the number
is rounded, the power is, and so is what comes of the two. So the result need not be the double
nearest to the exact value, which `Double.ofDecimal` gives.
-/

set_option autoImplicit false

namespace JsonShape

namespace Double

/-- Whether this is one of the two zeros. -/
def isZero : Double → Bool
  | finite _ units _ => units == 0
  | _ => false

/-- The double of the same size with a given sign. -/
def withSign (negative : Bool) : Double → Double
  | nan => nan
  | infinite _ => infinite negative
  | finite _ units fits => finite negative units fits

/-- The product, rounded. -/
def mul : Double → Double → Double
  | finite s m _, finite t n _ => ofUnits (s != t) (m * n) unitsPerOne
  | infinite s, infinite t => infinite (s != t)
  | infinite s, finite t n _ => if n = 0 then nan else infinite (s != t)
  | finite s m _, infinite t => if m = 0 then nan else infinite (s != t)
  | nan, _ => nan
  | _, nan => nan

/-- The quotient, rounded. -/
def div : Double → Double → Double
  | finite s m _, finite t n _ =>
    if n = 0 then if m = 0 then nan else infinite (s != t)
    else ofUnits (s != t) (m * unitsPerOne) n
  | infinite s, finite t _ _ => infinite (s != t)
  | finite s _ _, infinite t => ofUnits (s != t) 0 1
  | infinite _, infinite _ => nan
  | nan, _ => nan
  | _, nan => nan

/-- The greatest power of ten that is a double has this exponent. -/
def maxTenfold : Nat := 308

/-- A power of ten, rounded. -/
def tenfold (n : Nat) : Double := ofDecimal false 1 n

/-- A double divided by the greatest power of ten so many times, or until nothing is left. -/
def shrink : (times : Nat) → Double → Double
  | 0, x => x
  | times + 1, x => if x.isZero then x else shrink times (x.div (tenfold maxTenfold))

/-- A double divided by a power of ten: by the greatest one first, as often as it takes. -/
def overTenfold (x : Double) (n : Nat) : Double :=
  let times := (n - 1) / maxTenfold
  (shrink times x).div (tenfold (n - times * maxTenfold))

/-- `digits * 10 ^ exponent` with a rounding at each step; an infinity if that is out of range. -/
def scaled (digits : Nat) (exponent : Int) : Double :=
  let x := ofInt digits
  if exponent < 0 then x.overTenfold (-exponent).toNat
  else if exponent ≤ maxTenfold then x.mul (tenfold exponent.toNat)
  else if digits = 0 then x
  else .infinite false

end Double

end JsonShape
