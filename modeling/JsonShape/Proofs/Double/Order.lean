import Mathlib.Order.Basic
import JsonShape.Double

/-!
# The order of doubles

Comparing doubles is comparing positions, and the lesser and the greater of two are found at the
least and the greatest position (`position_min`, `position_max`). What is not a number has no
position, and no comparison holds of it.
-/

set_option autoImplicit false

namespace JsonShape

namespace Double

theorem position_eq_none_iff {x : Double} : x.position = none ↔ x.isNaN = true := by
  cases x <;> simp [position, isNaN]

theorem exists_position {x : Double} (h : x.isNaN = false) : ∃ p, x.position = some p :=
  Option.ne_none_iff_exists'.1 fun hn => by rw [position_eq_none_iff.1 hn] at h; cases h

theorem isNaN_of_isFinite {x : Double} (h : x.isFinite = true) : x.isNaN = false := by
  cases x <;> simp_all [isFinite, isNaN]

theorem isNaN_of_position {x : Double} {p : Int} (h : x.position = some p) : x.isNaN = false := by
  cases x <;> simp_all [position, isNaN]

theorem eq_finite_of_isFinite {x : Double} (h : x.isFinite = true) :
    ∃ negative units fits, x = .finite negative units fits := by
  cases x with
  | finite negative units fits => exact ⟨negative, units, fits, rfl⟩
  | nan => cases h
  | infinite _ => cases h

/-- Finite doubles lie between the infinities. -/
theorem signed_lt_signed (negative : Bool) {m n : Nat} (h : m < n) :
    signed true n < signed negative m ∧ signed negative m < signed false n := by
  cases negative <;> simp only [signed, Bool.false_eq_true, if_true, if_false] <;> omega

/-! ## Comparisons -/

theorem le_iff {a b : Double} :
    a.le b = true ↔ ∃ p q, a.position = some p ∧ b.position = some q ∧ p ≤ q := by
  unfold le
  split
  · next x y hx hy => simp [hx, hy]
  · next hn =>
    simp only [Bool.false_eq_true, false_iff]
    rintro ⟨p, q, hp, hq, -⟩
    exact hn p q hp hq

theorem lt_iff {a b : Double} :
    a.lt b = true ↔ ∃ p q, a.position = some p ∧ b.position = some q ∧ p < q := by
  unfold lt
  split
  · next x y hx hy => simp [hx, hy]
  · next hn =>
    simp only [Bool.false_eq_true, false_iff]
    rintro ⟨p, q, hp, hq, -⟩
    exact hn p q hp hq

theorem le_iff_of_position {a b : Double} {p q : Int} (ha : a.position = some p)
    (hb : b.position = some q) : a.le b = true ↔ p ≤ q := by
  simp [le, ha, hb]

theorem lt_iff_of_position {a b : Double} {p q : Int} (ha : a.position = some p)
    (hb : b.position = some q) : a.lt b = true ↔ p < q := by
  simp [lt, ha, hb]

theorem le_refl {x : Double} (h : x.isNaN = false) : x.le x = true := by
  obtain ⟨p, hp⟩ := exists_position h
  exact (le_iff_of_position hp hp).2 (Int.le_refl p)

theorem le_trans {a b c : Double} (h : a.le b = true) (h' : b.le c = true) : a.le c = true := by
  obtain ⟨p, q, hp, hq, hpq⟩ := le_iff.1 h
  obtain ⟨q', r, hq', hr, hqr⟩ := le_iff.1 h'
  obtain rfl : q = q' := by rw [hq] at hq'; exact Option.some.inj hq'
  exact (le_iff_of_position hp hr).2 (by omega)

theorem le_of_lt {a b : Double} (h : a.lt b = true) : a.le b = true := by
  obtain ⟨p, q, hp, hq, hpq⟩ := lt_iff.1 h
  exact (le_iff_of_position hp hq).2 (by omega)

theorem le_total {a b : Double} (ha : a.isNaN = false) (hb : b.isNaN = false) :
    a.le b = true ∨ b.le a = true := by
  obtain ⟨p, hp⟩ := exists_position ha
  obtain ⟨q, hq⟩ := exists_position hb
  rw [le_iff_of_position hp hq, le_iff_of_position hq hp]
  omega

theorem lt_eq_false_iff {a b : Double} (ha : a.isNaN = false) (hb : b.isNaN = false) :
    a.lt b = false ↔ b.le a = true := by
  obtain ⟨p, hp⟩ := exists_position ha
  obtain ⟨q, hq⟩ := exists_position hb
  rw [← Bool.not_eq_true, lt_iff_of_position hp hq, le_iff_of_position hq hp]
  omega

/-- Doubles at most one another are equal as numbers. -/
theorem eqv_of_le_of_le {a b : Double} (h : a.le b = true) (h' : b.le a = true) :
    a.eqv b = true := by
  obtain ⟨p, q, hp, hq, hpq⟩ := le_iff.1 h
  rw [le_iff_of_position hq hp] at h'
  simp only [eqv, hp, hq, decide_eq_true_eq]
  omega

/-! ## The infinities -/

theorem position_bounds : ∀ {x : Double} {p : Int}, x.position = some p →
    -(overflow : Int) ≤ p ∧ p ≤ overflow
  | infinite negative, p, h => by
    obtain rfl := Option.some.inj h
    cases negative <;> simp only [signed, Bool.false_eq_true, if_true, if_false] <;> omega
  | finite negative units fits, p, h => by
    obtain rfl := Option.some.inj h
    obtain ⟨below, above⟩ := signed_lt_signed negative fits.1
    simp only [signed, Bool.false_eq_true, if_true, if_false] at below above ⊢
    omega

theorem infinite_true_le {x : Double} (h : x.isNaN = false) : (infinite true).le x = true := by
  obtain ⟨p, hp⟩ := exists_position h
  exact (le_iff_of_position rfl hp).2 (position_bounds hp).1

theorem le_infinite_false {x : Double} (h : x.isNaN = false) : x.le (infinite false) = true := by
  obtain ⟨p, hp⟩ := exists_position h
  exact (le_iff_of_position hp rfl).2 (position_bounds hp).2

/-- What is equal to an infinity is that infinity. -/
theorem eq_infinite_of_eqv {x : Double} {negative : Bool} (h : x.eqv (infinite negative) = true) :
    x = infinite negative := by
  have positive : (0 : Int) < overflow := by decide +kernel
  cases x with
  | nan => cases h
  | infinite sign =>
    have same := of_decide_eq_true h
    cases sign <;> cases negative <;>
      simp only [signed, Bool.false_eq_true, if_true, if_false] at same ⊢ <;> omega
  | finite sign units fits =>
    have same := of_decide_eq_true h
    have bound := signed_lt_signed sign fits.1
    cases negative <;>
      simp only [signed, Bool.false_eq_true, if_true, if_false] at same bound <;> omega

/-! ## The lesser and the greater -/

theorem min_eq_or (a b : Double) : a.min b = a ∨ a.min b = b := by
  unfold min
  split
  · exact .inr rfl
  · exact .inl rfl

theorem max_eq_or (a b : Double) : a.max b = a ∨ a.max b = b := by
  unfold max
  split
  · exact .inr rfl
  · exact .inl rfl

/-- What is not a number is passed over. -/
theorem min_of_isNaN {a b : Double} (ha : a.isNaN = false) (hb : b.isNaN = true) :
    a.min b = a := by
  simp [min, ha, lt, position_eq_none_iff.2 hb]

/-- What is not a number is passed over. -/
theorem max_of_isNaN {a b : Double} (ha : a.isNaN = false) (hb : b.isNaN = true) :
    a.max b = a := by
  simp [max, ha, lt, position_eq_none_iff.2 hb]

theorem isNaN_min {a b : Double} (ha : a.isNaN = false) : (a.min b).isNaN = false := by
  cases hb : b.isNaN with
  | true => rw [min_of_isNaN ha hb, ha]
  | false => rcases min_eq_or a b with h | h <;> rw [h] <;> assumption

theorem isNaN_max {a b : Double} (ha : a.isNaN = false) : (a.max b).isNaN = false := by
  cases hb : b.isNaN with
  | true => rw [max_of_isNaN ha hb, ha]
  | false => rcases max_eq_or a b with h | h <;> rw [h] <;> assumption

theorem min_eq_ite {a b : Double} (ha : a.isNaN = false) (hb : b.isNaN = false) :
    a.min b = if a.le b then a else b := by
  rw [min, ha, Bool.false_or]
  have := lt_eq_false_iff hb ha
  cases h : b.lt a <;> cases h' : a.le b <;> simp_all

theorem max_eq_ite {a b : Double} (ha : a.isNaN = false) (hb : b.isNaN = false) :
    a.max b = if b.le a then a else b := by
  rw [max, ha, Bool.false_or]
  have := lt_eq_false_iff ha hb
  cases h : a.lt b <;> cases h' : b.le a <;> simp_all

theorem position_min {a b : Double} {p q : Int} (ha : a.position = some p)
    (hb : b.position = some q) : (a.min b).position = some (Min.min p q) := by
  unfold min
  rw [isNaN_of_position ha, Bool.false_or]
  split
  · next h => rw [hb, Int.min_eq_right (Int.le_of_lt ((lt_iff_of_position hb ha).1 h))]
  · next h =>
    rw [lt_iff_of_position hb ha] at h
    rw [ha, Int.min_eq_left (Int.not_lt.1 h)]

theorem position_max {a b : Double} {p q : Int} (ha : a.position = some p)
    (hb : b.position = some q) : (a.max b).position = some (Max.max p q) := by
  unfold max
  rw [isNaN_of_position ha, Bool.false_or]
  split
  · next h => rw [hb, Int.max_eq_right (Int.le_of_lt ((lt_iff_of_position ha hb).1 h))]
  · next h =>
    rw [lt_iff_of_position ha hb] at h
    rw [ha, Int.max_eq_left (Int.not_lt.1 h)]

/-- At most the lesser of two is at most both. -/
theorem le_min_iff {a b c : Double} (hb : b.isNaN = false) (hc : c.isNaN = false) :
    a.le (b.min c) = true ↔ a.le b = true ∧ a.le c = true := by
  obtain ⟨q, hq⟩ := exists_position hb
  obtain ⟨r, hr⟩ := exists_position hc
  have least := position_min hq hr
  cases ha : a.position with
  | none => simp [le, ha]
  | some p =>
    rw [le_iff_of_position ha least, le_iff_of_position ha hq, le_iff_of_position ha hr]
    omega

/-- At least the greater of two is at least both. -/
theorem max_le_iff {a b c : Double} (ha : a.isNaN = false) (hb : b.isNaN = false) :
    (a.max b).le c = true ↔ a.le c = true ∧ b.le c = true := by
  obtain ⟨p, hp⟩ := exists_position ha
  obtain ⟨q, hq⟩ := exists_position hb
  have greatest := position_max hp hq
  cases hc : c.position with
  | none => simp [le, hc]
  | some r =>
    rw [le_iff_of_position greatest hc, le_iff_of_position hp hc, le_iff_of_position hq hc]
    omega

end Double

end JsonShape
