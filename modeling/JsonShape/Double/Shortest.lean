import JsonShape.Double

/-!
# Shortest decimals

`Double.shortest` finds, for a positive double, the decimal with the fewest digits that reads back
as that double, and of those the nearest one. Each candidate is tried by reading it back, so what is
found reads back by construction; the exact decimal expansion stands at the end of the search.

`Double.Layout` writes such a decimal: where positional notation ends and whether a whole number
shows a fraction. `Double.json` is the layout of numbers in JSON, `Double.plain` the one of numbers
in messages.
-/

set_option autoImplicit false

namespace JsonShape

namespace Double

/-- The number `digits * 10 ^ exponent`. -/
structure Decimal where
  digits : Nat
  exponent : Int
deriving DecidableEq, Repr

/-! ## The search -/

/-- The decimal without the zeros at the end of its digits. -/
def Decimal.trim (fuel : Nat) (d : Decimal) : Decimal :=
  match fuel with
  | 0 => d
  | fuel + 1 =>
    if d.digits ≠ 0 ∧ d.digits % 10 = 0 then trim fuel ⟨d.digits / 10, d.exponent + 1⟩ else d

/-- Whether a decimal is read as the double of so many units. -/
def readsAs (units : Nat) (d : Decimal) : Bool :=
  match ofDecimal false d.digits d.exponent with
  | finite _ units' _ => units' == units
  | _ => false

/-- The least power of ten that takes `units` to one or more, tried from `tenfold` on. -/
def scaleUp (units : Nat) : (fuel tenfold : Nat) → Nat
  | 0, tenfold => tenfold
  | fuel + 1, tenfold =>
    if unitsPerOne ≤ units * Nat.pow 10 tenfold then tenfold else scaleUp units fuel (tenfold + 1)

/-- The exponent of the leading decimal digit of so many units. -/
def leadingExponent (units : Nat) : Int :=
  if unitsPerOne ≤ units then ((Nat.toDigits 10 (units / unitsPerOne)).length : Int) - 1
  else -(scaleUp units 400 1 : Int)

/-- The two decimals with last digit at `exponent` on either side of so many units, nearest first.
-/
def neighbours (units : Nat) (exponent : Int) : List Decimal :=
  let num := if 0 ≤ exponent then units else units * Nat.pow 10 (-exponent).toNat
  let den := if 0 ≤ exponent then unitsPerOne * Nat.pow 10 exponent.toNat else unitsPerOne
  let nearest := roundHalfEven num den
  let other := if nearest = num / den then nearest + 1 else num / den
  [⟨nearest, exponent⟩, ⟨other, exponent⟩]

/-- The exact decimal expansion: a unit is `5 ^ 1074 / 10 ^ 1074`. -/
def exact (units : Nat) : Decimal := ⟨units * Nat.pow 5 1074, -1074⟩

/-- The decimals to try: both neighbours for one digit, for two, and so on up to seventeen. -/
def candidates (units : Nat) : List Decimal :=
  let leading := leadingExponent units
  (List.range 17).flatMap fun (more : Nat) =>
    neighbours units (leading - more)

/-- The decimal with the fewest digits that reads back as `units`, and of those the nearest. -/
def shortest (units : Nat) : Decimal :=
  (((candidates units).find? (readsAs units)).getD (exact units)).trim 1100

/-! ## Layout -/

/-- How a decimal is written out. -/
structure Layout where
  /-- The exponents of a leading digit that are written positionally, `none` for all of them. -/
  range : Option (Int × Int)
  /-- Whether a whole number shows that it is a double: `3.0` rather than `3`. -/
  point : Bool

/-- Numbers in JSON: positional from `1e-5` up to below `1e16`, and always with a mark. -/
def json : Layout := ⟨some (-5, 15), true⟩

/-- Numbers in messages: positional throughout, and a whole number without a fraction. -/
def plain : Layout := ⟨none, false⟩

/-- Positional notation of a decimal other than zero. -/
def writePositional (layout : Layout) (digits : List Char) (exponent : Int) : List Char :=
  if 0 ≤ exponent then
    digits ++ List.replicate exponent.toNat '0' ++ if layout.point then ['.', '0'] else []
  else
    let places := (-exponent).toNat
    if places < digits.length then
      digits.take (digits.length - places) ++ '.' :: digits.drop (digits.length - places)
    else '0' :: '.' :: List.replicate (places - digits.length) '0' ++ digits

/-- Exponential notation: one digit, a point if more follow, and the exponent with its sign. -/
def writeExponential (digits : List Char) (leading : Int) : List Char :=
  let mantissa := match digits with
    | first :: second :: rest => first :: '.' :: second :: rest
    | short => short
  mantissa ++ 'e' :: (if leading < 0 then '-' else '+') :: Nat.toDigits 10 leading.natAbs

/-- A decimal in a layout. -/
def Layout.decimal (layout : Layout) (d : Decimal) : List Char :=
  let digits := Nat.toDigits 10 d.digits
  let leading := d.exponent + digits.length - 1
  match layout.range with
  | none => writePositional layout digits d.exponent
  | some (least, greatest) =>
    if least ≤ leading ∧ leading ≤ greatest then writePositional layout digits d.exponent
    else writeExponential digits leading

/-- The text of a double in a layout. -/
def text (layout : Layout) : Double → List Char
  | nan => ['N', 'a', 'N']
  | infinite negative => (if negative then ['-'] else []) ++ ['i', 'n', 'f']
  | finite negative units _ =>
    (if negative then ['-'] else []) ++
      if units = 0 then '0' :: (if layout.point then ['.', '0'] else [])
      else layout.decimal (shortest units)

end Double

end JsonShape
