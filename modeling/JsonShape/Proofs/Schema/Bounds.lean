import Mathlib.Data.String.Basic
import JsonShape.Proofs.Interval
import JsonShape.Proofs.Schema.Validity

/-!
# Bounds that are written

A range of integers or of numbers is written as `minimum` and `maximum` only where doubles are exact.
Then a number of which the nearest double lies in the range lies between the bounds itself, compared
without rounding (`le_intBounds?`, `le_floatBounds?`), so the schema of the range accepts it.
-/

set_option autoImplicit false

namespace JsonShape

/-! ## Whole parts -/

/-- Cutting off the fraction does not step over a whole number. -/
theorem Double.signed_div_le {negative : Bool} {units one : Nat} (h : 0 < one) {k : Int}
    (hk : signed negative units ≤ k * one) : signed negative (units / one) ≤ k := by
  cases negative with
  | false =>
    simp only [signed, Bool.false_eq_true, if_false] at hk ⊢
    rw [Int.natCast_ediv]
    exact Int.ediv_le_of_le_mul (by omega) hk
  | true =>
    simp only [signed, if_true] at hk ⊢
    rw [Int.natCast_ediv]
    have : -k ≤ (units : Int) / (one : Int) :=
      (Int.le_ediv_iff_mul_le (by omega)).2 (by rw [Int.neg_mul]; omega)
    omega

theorem Double.le_signed_div {negative : Bool} {units one : Nat} (h : 0 < one) {k : Int}
    (hk : k * one ≤ signed negative units) : k ≤ signed negative (units / one) := by
  cases negative with
  | false =>
    simp only [signed, Bool.false_eq_true, if_false] at hk ⊢
    rw [Int.natCast_ediv]
    exact (Int.le_ediv_iff_mul_le (by omega)).2 hk
  | true =>
    simp only [signed, if_true] at hk ⊢
    rw [Int.natCast_ediv]
    have : (units : Int) / (one : Int) ≤ -k :=
      Int.ediv_le_of_le_mul (by omega) (by rw [Int.neg_mul]; omega)
    omega

/-- A double within the safe ones is finite. -/
theorem Double.isFinite_of_isSafe {x : Double} (h : x.isSafe = true) : x.isFinite = true := by
  cases x with
  | finite negative units fits => rfl
  | nan => cases h
  | infinite negative =>
    have outside : maxSafe * unitsPerOne < overflow := lt_overflow (by decide)
    have bound := natAbs_position_le_of_isSafe (x := .infinite negative) rfl h
    rw [natAbs_signed] at bound
    omega

theorem Double.wholePart_le {x : Double} {p k : Int} (h : x.isFinite = true)
    (hp : x.position = some p) (hk : p ≤ k * unitsPerOne) : x.wholePart ≤ k := by
  obtain ⟨negative, units, fits, rfl⟩ := eq_finite_of_isFinite h
  obtain rfl := Option.some.inj hp
  exact signed_div_le unitsPerOne_pos hk

theorem Double.le_wholePart {x : Double} {p k : Int} (h : x.isFinite = true)
    (hp : x.position = some p) (hk : k * unitsPerOne ≤ p) : k ≤ x.wholePart := by
  obtain ⟨negative, units, fits, rfl⟩ := eq_finite_of_isFinite h
  obtain rfl := Option.some.inj hp
  exact le_signed_div unitsPerOne_pos hk

/-! ## Ranges -/

namespace Interval

variable {range : Interval} {n : Number} {options : RenderOptions} {lo hi : Number}

/-- Where both ends are safe, a range of nearest doubles is a range of numbers. -/
theorem position_between (hs : range.isSafe = true) (hc : range.contains n.toDouble = true) :
    ∃ p q, range.lo.position = some p ∧ range.hi.position = some q ∧
      p ≤ n.position ∧ n.position ≤ q := by
  rw [contains, Bool.and_eq_true] at hc
  obtain ⟨p, x, hp, hx, hpx⟩ := Double.le_iff.1 hc.1
  obtain ⟨x', q, hx', hq, hxq⟩ := Double.le_iff.1 hc.2
  obtain rfl : x = x' := Option.some.inj (hx.symm.trans hx')
  have safe : n.toDouble.isSafe = true := by
    rw [isSafe, Bool.and_eq_true] at hs
    unfold Double.isSafe at hs ⊢
    simp only [hp, hq, hx, decide_eq_true_eq] at hs ⊢
    omega
  obtain rfl : n.position = x := Option.some.inj ((Number.position_toDouble safe).symm.trans hx)
  exact ⟨p, q, hp, hq, hpx, hxq⟩

theorem isSafe_of_isBounding (h : range.isBounding options = true) : range.isSafe = true := by
  simp only [isBounding, Bool.and_eq_true] at h
  exact h.2

theorem position_of_ofInt? {k : Int} (h : Number.ofInt? k = some n) :
    n.position = k * Double.unitsPerOne := by
  unfold Number.ofInt? at h
  split at h
  · cases h; rfl
  · cases h

theorem position_of_ofDouble? {x : Double} {p : Int} (hp : x.position = some p)
    (h : Number.ofDouble? x = some n) : n.position = p := by
  unfold Number.ofDouble? at h
  split at h
  · cases h; simp [Number.position, hp]
  · cases h

/-- The bounds of a range of integers hold of every integer in it. -/
theorem le_intBounds? (hb : range.intBounds? options = some (lo, hi))
    (hn : n.isIntegral = true) (hc : range.contains n.toDouble = true) :
    lo.position ≤ n.position ∧ n.position ≤ hi.position := by
  unfold intBounds? at hb
  split at hb
  · next h =>
    obtain ⟨p, q, hp, hq, hpn, hnq⟩ := position_between (isSafe_of_isBounding h) hc
    obtain ⟨l, hl, hb⟩ := Option.bind_eq_some_iff.1 hb
    obtain ⟨m, hm, hb⟩ := Option.bind_eq_some_iff.1 hb
    simp only [Option.some.injEq, Prod.mk.injEq] at hb
    obtain ⟨rfl, rfl⟩ := hb
    obtain ⟨k, hk⟩ := Number.exists_position_eq_mul hn
    have finite : range.lo.isFinite = true ∧ range.hi.isFinite = true := by
      have safe := isSafe_of_isBounding h
      rw [isSafe, Bool.and_eq_true] at safe
      exact ⟨Double.isFinite_of_isSafe safe.1, Double.isFinite_of_isSafe safe.2⟩
    rw [position_of_ofInt? hl, position_of_ofInt? hm, hk]
    rw [hk] at hpn hnq
    constructor
    · exact Int.mul_le_mul_of_nonneg_right (Double.wholePart_le finite.1 hp hpn)
        (Int.natCast_nonneg _)
    · exact Int.mul_le_mul_of_nonneg_right (Double.le_wholePart finite.2 hq hnq)
        (Int.natCast_nonneg _)
  · cases hb

/-- The bounds of a range of doubles hold of every number in it. -/
theorem le_floatBounds? (hb : range.floatBounds? options = some (lo, hi))
    (hc : range.contains n.toDouble = true) :
    lo.position ≤ n.position ∧ n.position ≤ hi.position := by
  unfold floatBounds? at hb
  split at hb
  · next h =>
    obtain ⟨p, q, hp, hq, hpn, hnq⟩ := position_between (isSafe_of_isBounding h) hc
    obtain ⟨l, hl, hb⟩ := Option.bind_eq_some_iff.1 hb
    obtain ⟨m, hm, hb⟩ := Option.bind_eq_some_iff.1 hb
    simp only [Option.some.injEq, Prod.mk.injEq] at hb
    obtain ⟨rfl, rfl⟩ := hb
    rw [position_of_ofDouble? hp hl, position_of_ofDouble? hq hm]
    exact ⟨hpn, hnq⟩
  · cases hb

end Interval

end JsonShape
