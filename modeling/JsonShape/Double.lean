/-!
# Double-precision numbers

A finite double is an exact whole multiple of `2 ^ -1074`, the least positive one. The type stores
that multiple, so comparing doubles is comparing integers, and a JSON integer and a double are
compared without rounding either. Zero keeps its sign, as the text of a number shows it.

`Double.ofRatio` rounds an exact ratio to the nearest double, a tie to the even one.
-/

set_option autoImplicit false

namespace JsonShape

namespace Double

/-- How many units make one: a unit is `2 ^ -1074`. -/
def unitsPerOne : Nat := 1 <<< 1074

/-- Units past the largest finite double: `2 ^ 1024`, counted in units. -/
def overflow : Nat := 1 <<< 2098

/-- At most 53 significant bits, below `2 ^ 1024`: the multiples that are doubles. -/
def Fits (units : Nat) : Prop :=
  units < overflow ∧ ∃ m s, m < 1 <<< 53 ∧ units = m <<< s

end Double

/-- A double-precision number: not a number, an infinity, or a signed multiple of the unit. -/
inductive Double where
  | nan
  | infinite (negative : Bool)
  | finite (negative : Bool) (units : Nat) (fits : Double.Fits units)
deriving DecidableEq

namespace Double

/-! ## Sign and position -/

/-- `n` with the sign that `negative` asks for. -/
def signed (negative : Bool) (n : Nat) : Int :=
  if negative then -(n : Int) else n

/-- Where a double lies on the number line, in units; the infinities lie at the overflow bound. -/
def position : Double → Option Int
  | nan => none
  | infinite negative => some (signed negative overflow)
  | finite negative units _ => some (signed negative units)

/-- `a ≤ b`; false as soon as one of them is not a number. -/
def le (a b : Double) : Bool :=
  match a.position, b.position with
  | some x, some y => decide (x ≤ y)
  | _, _ => false

/-- `a < b`; false as soon as one of them is not a number. -/
def lt (a b : Double) : Bool :=
  match a.position, b.position with
  | some x, some y => decide (x < y)
  | _, _ => false

/-- Equal as numbers: both zeros are the same, and what is not a number equals nothing. -/
def eqv (a b : Double) : Bool :=
  match a.position, b.position with
  | some x, some y => decide (x = y)
  | _, _ => false

/-- Whether this is not a number. -/
def isNaN : Double → Bool
  | nan => true
  | _ => false

/-- Whether this is neither an infinity nor not a number. -/
def isFinite : Double → Bool
  | finite .. => true
  | _ => false

/-- The lesser of two; `a` if they are equal, and the other one if one is not a number. -/
def min (a b : Double) : Double :=
  if a.isNaN || b.lt a then b else a

/-- The greater of two; `a` if they are equal, and the other one if one is not a number. -/
def max (a b : Double) : Double :=
  if a.isNaN || a.lt b then b else a

/-! ## Whole numbers -/

/-- Whether a finite double has no fraction. -/
def isWhole : Double → Bool
  | finite _ units _ => units % unitsPerOne == 0
  | _ => false

/-- The largest `n` such that all whole numbers from `-n` to `n` are doubles, and `n + 1` is the
first that stands for its neighbour too: `2 ^ 53 - 1`. -/
def maxSafe : Nat := 1 <<< 53 - 1

/-- Whether a double lies within `-maxSafe` and `maxSafe`. -/
def isSafe (x : Double) : Bool :=
  match x.position with
  | some p => decide (-(maxSafe * unitsPerOne : Nat) ≤ p ∧ p ≤ (maxSafe * unitsPerOne : Nat))
  | none => false

/-- A double without its fraction, as an integer; zero for an infinity and for `nan`. -/
def wholePart : Double → Int
  | finite negative units _ => signed negative (units / unitsPerOne)
  | _ => 0

/-! ## Rounding -/

/-- `num / den` rounded to the nearest whole number, a tie to the even one. -/
def roundHalfEven (num den : Nat) : Nat :=
  let quotient := num / den
  let twice := 2 * (num % den)
  if twice < den then quotient
  else if den < twice then quotient + 1
  else quotient + quotient % 2

theorem roundHalfEven_le (num den : Nat) : roundHalfEven num den ≤ num / den + 1 := by
  unfold roundHalfEven
  dsimp only
  split
  · omega
  · split <;> omega

/-- How many low bits a multiple of the unit loses when it is cut to 53 significant bits. -/
def excess (units : Nat) : Nat := units.log2 - 52

theorem shiftRight_excess_lt (units : Nat) : units >>> excess units < 1 <<< 53 := by
  rw [Nat.shiftRight_eq_div_pow, Nat.div_lt_iff_lt_mul (Nat.two_pow_pos _), Nat.shiftLeft_eq,
    Nat.one_mul, ← Nat.pow_add]
  exact Nat.lt_of_lt_of_le Nat.lt_log2_self
    (Nat.pow_le_pow_right (by decide) (by unfold excess; omega))

/-- The multiple of the unit nearest to the ratio `num / den` of units among those with at most 53
significant bits. -/
def nearestUnits (num den : Nat) : Nat :=
  let low := excess (num / den)
  roundHalfEven num (den <<< low) <<< low

theorem nearestUnits_significand (num den : Nat) :
    ∃ m s, m < 1 <<< 53 ∧ nearestUnits num den = m <<< s := by
  have small := shiftRight_excess_lt (num / den)
  have bound := roundHalfEven_le num (den <<< excess (num / den))
  rw [Nat.shiftLeft_eq den, ← Nat.div_div_eq_div_mul, ← Nat.shiftRight_eq_div_pow,
    ← Nat.shiftLeft_eq] at bound
  by_cases carry : roundHalfEven num (den <<< excess (num / den)) = 1 <<< 53
  · exact ⟨1 <<< 52, excess (num / den) + 1, by decide, by
      simp only [nearestUnits, carry, ← Nat.shiftLeft_add]; congr 1; omega⟩
  · exact ⟨_, excess (num / den), by omega, rfl⟩

/-- The double nearest to the ratio `num / den` of units, an infinity if that is out of range. -/
def ofUnits (negative : Bool) (num den : Nat) : Double :=
  if inRange : nearestUnits num den < overflow then
    .finite negative (nearestUnits num den) ⟨inRange, nearestUnits_significand num den⟩
  else .infinite negative

/-- The double nearest to an integer. -/
def ofInt (n : Int) : Double :=
  ofUnits (decide (n < 0)) (n.natAbs * unitsPerOne) 1

/-- The double nearest to `± digits * 10 ^ exponent`. The first two cases are the decimals that are
out of reach whatever their digits, so that no power of ten past the range is ever computed. -/
def ofDecimal (negative : Bool) (digits : Nat) (exponent : Int) : Double :=
  if digits = 0 then ofUnits negative 0 1
  else if 344 ≤ exponent then .infinite negative
  else if 3 * exponent + digits.log2 + 1 < -1080 then ofUnits negative 0 1
  else if 0 ≤ exponent then ofUnits negative (digits * Nat.pow 10 exponent.toNat * unitsPerOne) 1
  else ofUnits negative (digits * unitsPerOne) (Nat.pow 10 (-exponent).toNat)

end Double

end JsonShape
