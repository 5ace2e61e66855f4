import JsonShape.Double.Scaled
import JsonShape.Proofs.Double.Decimal

/-!
# Where scaling rounds once

Powers of ten up to `10 ^ 22` are doubles (`tenfold_eq`), and so are whole numbers up to `2 ^ 53`. So such a
number times or over such a power is rounded once only, and comes to the double nearest to the exact value
(`scaled_eq_ofDecimal`).
-/

set_option autoImplicit false

namespace JsonShape

namespace Double

theorem withSign_ofUnits (negative : Bool) (num den : Nat) :
    (ofUnits false num den).withSign negative = ofUnits negative num den := by
  unfold ofUnits
  split <;> rfl

theorem withSign_ofDecimal (negative : Bool) (digits : Nat) (exponent : Int) :
    (ofDecimal false digits exponent).withSign negative = ofDecimal negative digits exponent := by
  rw [ofDecimal_eq, ofDecimal_eq, withSign_ofUnits]

/-- A power of ten is one of five, with as many zero bits after it. -/
theorem fits_tenfold {n : Nat} (h : n ≤ 22) : Fits (10 ^ n * unitsPerOne) := by
  have bound : 10 ^ n ≤ 2 ^ 100 := Nat.le_trans (Nat.pow_le_pow_right (by decide) h) (by decide)
  have small : 5 ^ n < 1 <<< 53 :=
    Nat.lt_of_le_of_lt (Nat.pow_le_pow_right (by decide) h) (by decide)
  refine ⟨lt_overflow bound, 5 ^ n, n + 1074, small, ?_⟩
  rw [Nat.shiftLeft_add, shiftLeft_eq_mul_unitsPerOne, Nat.shiftLeft_eq, ← Nat.mul_pow]

theorem tenfold_eq {n : Nat} (h : n ≤ 22) :
    tenfold n = .finite false (10 ^ n * unitsPerOne) (fits_tenfold h) := by
  have self := ofUnits_exact false (fits_tenfold h) Nat.one_pos
  have down : (-(n : Int)).toNat = 0 := by omega
  rw [Nat.mul_one] at self
  rw [tenfold, ofDecimal_eq, Int.toNat_natCast, down, Nat.pow_zero, Nat.one_mul, self]

theorem ofInt_natCast {n : Nat} (h : n ≤ 2 ^ 53) :
    ofInt n = .finite false (n * unitsPerOne) (fits_of_le h) := by
  have self := ofUnits_exact false (fits_of_le h) Nat.one_pos
  have positive : decide ((n : Int) < 0) = false := decide_eq_false (by omega)
  rw [Nat.mul_one] at self
  rw [ofInt, positive, Int.natAbs_natCast, self]

/-- Few digits, scaled by a power of ten that is not too great, come to the nearest double. -/
theorem scaled_eq_ofDecimal {digits : Nat} {exponent : Int} (few : digits ≤ 2 ^ 53)
    (least : -22 ≤ exponent) (most : exponent ≤ 22) :
    scaled digits exponent = ofDecimal false digits exponent := by
  have one := unitsPerOne_pos
  rw [scaled, ofInt_natCast few, ofDecimal_eq]
  by_cases h : exponent < 0
  · have up : exponent.toNat = 0 := by omega
    have once : ((-exponent).toNat - 1) / maxTenfold = 0 := Nat.div_eq_of_lt (by unfold maxTenfold; omega)
    have power : 10 ^ (-exponent).toNat * unitsPerOne ≠ 0 :=
      Nat.ne_of_gt (Nat.mul_pos (Nat.pow_pos (by decide)) one)
    simp only [if_pos h, overTenfold, once, shrink, Nat.zero_mul, Nat.sub_zero]
    rw [tenfold_eq (by omega), div, if_neg power, bne_self_eq_false, ofUnits_scale false _ _ one, up,
      Nat.pow_zero, Nat.mul_one]
  · have down : (-exponent).toNat = 0 := by omega
    have within : exponent ≤ maxTenfold := by unfold maxTenfold; omega
    simp only [if_neg h, if_pos within]
    rw [tenfold_eq (by omega), mul, bne_self_eq_false, Nat.mul_mul_mul_comm, ← Nat.mul_assoc, down,
      Nat.pow_zero, ← ofUnits_scale false _ 1 one, Nat.one_mul]

end Double

end JsonShape
