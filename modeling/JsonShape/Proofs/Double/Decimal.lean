import Mathlib.Tactic.Ring
import JsonShape.Double.Shortest
import JsonShape.Proofs.Double.Rounding

/-!
# Decimals read back

Reading a decimal is rounding the ratio that it denotes: the cut-offs for what is out of reach change
nothing (`ofDecimal_eq`). So zeros at the end of the digits can be traded for the exponent
(`ofDecimal_mul_pow`), and the shortest decimal of a double is read as that double
(`ofDecimal_shortest`): a candidate by the check that it has passed, and the exact expansion because a
unit is `5 ^ 1074 / 10 ^ 1074`.
-/

set_option autoImplicit false

namespace JsonShape

namespace Double

/-! ## The ratio that a decimal denotes -/

theorem two_pow_le_ten_pow (n : Nat) : 2 ^ (3 * n) ≤ 10 ^ n := by
  rw [Nat.pow_mul]
  exact Nat.pow_le_pow_left (by decide) n

theorem ofUnits_of_overflow_le (negative : Bool) {num : Nat} (h : overflow ≤ num) :
    ofUnits negative num 1 = .infinite negative := by
  obtain ⟨m, hm⟩ : ∃ m, m = 1024 := ⟨_, rfl⟩
  obtain ⟨e, he⟩ : ∃ e, e = 1074 := ⟨_, rfl⟩
  have far : overflow ≤ nearestUnits num 1 := by
    rw [overflow_eq hm he, ← Nat.pow_add] at h ⊢
    exact two_pow_le_nearestUnits (by omega) h
  rw [ofUnits, dif_neg (Nat.not_lt.2 far)]

theorem ofUnits_of_lt_half (negative : Bool) {num den : Nat} (h : 2 * num < den) :
    ofUnits negative num den = ofUnits negative 0 1 := by
  simp only [ofUnits, nearestUnits_eq_zero h, nearestUnits_zero]

/-- What is too small for the exponent is less than half a unit. -/
theorem two_mul_lt_ten_pow {digits n : Nat} (h : digits.log2 + 1081 < 3 * n) :
    2 * (digits * unitsPerOne) < 10 ^ n := by
  obtain ⟨e, he⟩ : ∃ e, e = 1074 := ⟨_, rfl⟩
  calc 2 * (digits * unitsPerOne) < 2 * (2 ^ (digits.log2 + 1) * 2 ^ e) := by
        rw [unitsPerOne_eq he]
        exact Nat.mul_lt_mul_of_pos_left
          (Nat.mul_lt_mul_of_pos_right Nat.lt_log2_self (Nat.two_pow_pos e)) (by decide)
    _ = 2 ^ (1 + (digits.log2 + 1) + e) := by rw [Nat.pow_add, Nat.pow_add]; ring
    _ ≤ 2 ^ (3 * n) := Nat.pow_le_pow_right (by decide) (by omega)
    _ ≤ 10 ^ n := two_pow_le_ten_pow n

theorem overflow_le_mul {digits n : Nat} (hd : digits ≠ 0) (h : 344 ≤ n) :
    overflow ≤ digits * 10 ^ n * unitsPerOne := by
  obtain ⟨m, hm⟩ : ∃ m, m = 1024 := ⟨_, rfl⟩
  obtain ⟨e, he⟩ : ∃ e, e = 1074 := ⟨_, rfl⟩
  rw [overflow_eq hm he, unitsPerOne_eq he]
  refine Nat.mul_le_mul_right _ ?_
  calc 2 ^ m ≤ 2 ^ (3 * n) := Nat.pow_le_pow_right (by decide) (by omega)
    _ ≤ 10 ^ n := two_pow_le_ten_pow n
    _ ≤ digits * 10 ^ n := Nat.le_mul_of_pos_left _ (by omega)

/-- Reading a decimal is rounding the ratio that it denotes. -/
theorem ofDecimal_eq (negative : Bool) (digits : Nat) (exponent : Int) :
    ofDecimal negative digits exponent =
      ofUnits negative (digits * 10 ^ exponent.toNat * unitsPerOne) (10 ^ (-exponent).toNat) := by
  have negative_zero : 0 ≤ exponent → (-exponent).toNat = 0 := by omega
  have positive_zero : exponent < 0 → exponent.toNat = 0 := by omega
  unfold ofDecimal
  by_cases hd : digits = 0
  · have none : 2 * (digits * 10 ^ exponent.toNat * unitsPerOne) < 10 ^ (-exponent).toNat := by
      rw [hd, Nat.zero_mul, Nat.zero_mul]
      exact Nat.pow_pos (by decide)
    rw [if_pos hd, ofUnits_of_lt_half _ none]
  rw [if_neg hd]
  -- the first two cases are the cut-offs, and rounding the ratio gives what they say
  split
  · next h =>
    rw [negative_zero (by omega), Nat.pow_zero,
      ofUnits_of_overflow_le _ (overflow_le_mul hd (by omega))]
  · split
    · next h =>
      rw [positive_zero (by omega), Nat.pow_zero, Nat.mul_one,
        ofUnits_of_lt_half _ (two_mul_lt_ten_pow (by omega))]
    · split
      · next h => rw [negative_zero h, Nat.pow_zero, Nat.pow_eq]
      · next h => rw [positive_zero (by omega), Nat.pow_zero, Nat.mul_one, Nat.pow_eq]

theorem ofDecimal_mul_ten (negative : Bool) (digits : Nat) (exponent : Int) :
    ofDecimal negative (digits * 10) exponent = ofDecimal negative digits (exponent + 1) := by
  rw [ofDecimal_eq, ofDecimal_eq]
  generalize unitsPerOne = one
  by_cases h : 0 ≤ exponent
  · have up : (exponent + 1).toNat = exponent.toNat + 1 := by omega
    have down : (-(exponent + 1)).toNat = (-exponent).toNat := by omega
    rw [up, down, Nat.pow_succ]
    congr 1
    ring
  · have up : (exponent + 1).toNat = exponent.toNat := by omega
    have down : (-exponent).toNat = (-(exponent + 1)).toNat + 1 := by omega
    rw [up, down, Nat.pow_succ, ← ofUnits_scale negative _ (10 ^ (-(exponent + 1)).toNat)
      (k := 10) (by decide)]
    congr 1
    ring

/-- Zeros at the end of the digits are the same as a greater exponent. -/
theorem ofDecimal_mul_pow (negative : Bool) (digits k : Nat) (exponent : Int) :
    ofDecimal negative (digits * 10 ^ k) exponent = ofDecimal negative digits (exponent + k) := by
  induction k generalizing exponent with
  | zero => simp
  | succ k ih =>
    rw [Nat.pow_succ, ← Nat.mul_assoc, ofDecimal_mul_ten, ih]
    congr 1
    omega

/-! ## The shortest decimal -/

/-- A decimal that passes the check reads back with either sign. -/
theorem ofDecimal_of_readsAs {units : Nat} {d : Decimal} (h : readsAs units d = true)
    (negative : Bool) (fits : Fits units) :
    ofDecimal negative d.digits d.exponent = .finite negative units fits := by
  obtain ⟨num, den, hread⟩ : ∃ num den, ∀ negative,
      ofDecimal negative d.digits d.exponent = ofUnits negative num den :=
    ⟨_, _, fun negative => ofDecimal_eq negative d.digits d.exponent⟩
  rw [readsAs, hread] at h
  rw [hread]
  unfold ofUnits at h ⊢
  by_cases inRange : nearestUnits num den < overflow
  · simp only [dif_pos inRange, beq_iff_eq] at h
    subst h
    rw [dif_pos inRange]
  · simp only [dif_neg inRange] at h
    cases h

theorem exact_eq {e : Nat} (he : e = 1074) (units : Nat) : exact units = ⟨units * 5 ^ e, -e⟩ := by
  have places : (e : Int) = 1074 := by omega
  rw [exact, ← he, places]
  rfl

/-- The exact expansion reads back. -/
theorem ofDecimal_exact {units : Nat} (negative : Bool) (fits : Fits units) :
    ofDecimal negative (exact units).digits (exact units).exponent =
      .finite negative units fits := by
  obtain ⟨e, he⟩ : ∃ e, e = 1074 := ⟨_, rfl⟩
  have five : 0 < 5 ^ e := Nat.pow_pos (by decide)
  have up : (-(e : Int)).toNat = 0 := by omega
  have down : (- -(e : Int)).toNat = e := by omega
  have ten : 10 ^ e = 5 ^ e * 2 ^ e := by rw [← Nat.mul_pow]
  have ratio : units * 5 ^ e * 10 ^ 0 * 2 ^ e = units * (5 ^ e * 2 ^ e) := by ring
  rw [exact_eq he, ofDecimal_eq, up, down, unitsPerOne_eq he, ten, ratio]
  exact ofUnits_exact negative fits (Nat.mul_pos five (Nat.two_pow_pos e))

theorem readsAs_digits_ne_zero {units : Nat} (hu : units ≠ 0) {d : Decimal}
    (h : readsAs units d = true) : d.digits ≠ 0 := by
  intro hd
  rw [readsAs, ofDecimal, if_pos hd, ofUnits] at h
  simp only [nearestUnits_zero, dif_pos overflow_pos, beq_iff_eq] at h
  exact hu h.symm

/-- Trading zeros for the exponent changes nothing that is read. -/
theorem ofDecimal_trim (negative : Bool) (fuel : Nat) {d : Decimal} (hd : d.digits ≠ 0) :
    (d.trim fuel).digits ≠ 0 ∧ ofDecimal negative (d.trim fuel).digits (d.trim fuel).exponent =
      ofDecimal negative d.digits d.exponent := by
  induction fuel generalizing d with
  | zero => exact ⟨hd, rfl⟩
  | succ fuel ih =>
    rw [Decimal.trim]
    split
    · next h =>
      have hten : d.digits / 10 * 10 = d.digits := by omega
      have hdiv : d.digits / 10 ≠ 0 := by omega
      obtain ⟨hne, hread⟩ := ih (d := ⟨d.digits / 10, d.exponent + 1⟩) hdiv
      refine ⟨hne, hread.trans ?_⟩
      rw [← ofDecimal_mul_ten, hten]
    · exact ⟨hd, rfl⟩

/-- The shortest decimal of a double is read as that double. -/
theorem ofDecimal_shortest {units : Nat} (hu : units ≠ 0) (negative : Bool) (fits : Fits units) :
    (shortest units).digits ≠ 0 ∧
      ofDecimal negative (shortest units).digits (shortest units).exponent =
        .finite negative units fits := by
  have found : ∃ d : Decimal, shortest units = d.trim 1100 ∧ d.digits ≠ 0 ∧
      ofDecimal negative d.digits d.exponent = .finite negative units fits := by
    rw [shortest]
    cases h : (candidates units).find? (readsAs units) with
    | none =>
      obtain ⟨e, he⟩ : ∃ e, e = 1074 := ⟨_, rfl⟩
      refine ⟨exact units, rfl, ?_, ofDecimal_exact negative fits⟩
      rw [exact_eq he]
      exact Nat.mul_ne_zero hu (Nat.ne_of_gt (Nat.pow_pos (by decide)))
    | some d =>
      have check := List.find?_some h
      exact ⟨d, rfl, readsAs_digits_ne_zero hu check, ofDecimal_of_readsAs check negative fits⟩
  obtain ⟨d, hd, hne, hread⟩ := found
  obtain ⟨hne', hread'⟩ := ofDecimal_trim negative 1100 hne
  rw [hd]
  exact ⟨hne', hread'.trans hread⟩

end Double

end JsonShape
