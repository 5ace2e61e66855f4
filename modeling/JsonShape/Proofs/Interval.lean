import Mathlib.Tactic.Ring
import JsonShape.Interval
import JsonShape.Kind
import JsonShape.Proofs.Double.Rounding

/-!
# Intervals of observed numbers

`Interval.Valid` says what the range of a well-formed shape is: finite ends, the right way round.
Taking in a finite number keeps that. Whether an interval lies inside another one makes sense for all
with numbers at both ends (`Interval.Numeric`), the one of no numbers among them; taking in a number is
told by what the result lies inside of (`Numeric.inside_extend_iff`), so an interval never loses what it
contains.

The nearest double of a JSON number is finite (`Number.isFinite_toDouble`), and where it is safe it is
the number itself (`Number.position_toDouble`).
-/

set_option autoImplicit false

namespace JsonShape

namespace Interval

/-! ## Valid intervals -/

/-- Both ends are finite, the lower one not above the upper one. -/
structure Valid (i : Interval) : Prop where
  lo_finite : i.lo.isFinite = true
  hi_finite : i.hi.isFinite = true
  lo_le_hi : i.lo.le i.hi = true

theorem valid_iff {i : Interval} : i.Valid ↔ (i.isEmpty || !i.isFinite) = false := by
  simp only [Bool.or_eq_false_iff, Bool.not_eq_false', isFinite, Bool.and_eq_true]
  constructor
  · intro h
    exact ⟨(Double.lt_eq_false_iff (Double.isNaN_of_isFinite h.hi_finite)
      (Double.isNaN_of_isFinite h.lo_finite)).2 h.lo_le_hi, h.lo_finite, h.hi_finite⟩
  · rintro ⟨hlt, hlo, hhi⟩
    exact ⟨hlo, hhi, (Double.lt_eq_false_iff (Double.isNaN_of_isFinite hhi)
      (Double.isNaN_of_isFinite hlo)).1 hlt⟩

theorem Valid.contains_lo {i : Interval} (h : i.Valid) : i.contains i.lo = true := by
  rw [contains, Bool.and_eq_true]
  exact ⟨Double.le_refl (Double.isNaN_of_isFinite h.lo_finite), h.lo_le_hi⟩

/-! ## Intervals of which both ends are numbers -/

/-- Both ends are numbers, in either order. -/
structure Numeric (i : Interval) : Prop where
  lo : i.lo.isNaN = false
  hi : i.hi.isNaN = false

theorem Valid.numeric {i : Interval} (h : i.Valid) : i.Numeric :=
  ⟨Double.isNaN_of_isFinite h.lo_finite, Double.isNaN_of_isFinite h.hi_finite⟩

theorem Numeric.extend {i : Interval} (h : i.Numeric) (x : Double) : (i.extend x).Numeric :=
  ⟨Double.isNaN_min h.lo, Double.isNaN_max h.hi⟩

theorem numeric_of_contains {i : Interval} {x : Double} (h : i.contains x = true) : i.Numeric := by
  rw [contains, Bool.and_eq_true] at h
  obtain ⟨p, -, hp, -⟩ := Double.le_iff.1 h.1
  obtain ⟨-, q, -, hq, -⟩ := Double.le_iff.1 h.2
  exact ⟨Double.isNaN_of_position hp, Double.isNaN_of_position hq⟩

/-! ## Intervals inside one another -/

/-- Whether an interval lies inside another one. -/
def inside (i j : Interval) : Bool := j.lo.le i.lo && i.hi.le j.hi

theorem Numeric.inside_self {i : Interval} (h : i.Numeric) : i.inside i = true := by
  rw [inside, Bool.and_eq_true]
  exact ⟨Double.le_refl h.lo, Double.le_refl h.hi⟩

theorem Valid.inside_self {i : Interval} (h : i.Valid) : i.inside i = true := h.numeric.inside_self

theorem contains_of_inside {i j : Interval} {x : Double} (h : i.inside j = true)
    (hx : i.contains x = true) : j.contains x = true := by
  rw [inside, Bool.and_eq_true] at h
  rw [contains, Bool.and_eq_true] at hx ⊢
  exact ⟨Double.le_trans h.1 hx.1, Double.le_trans hx.2 h.2⟩

/-- Both ends are equal as numbers. -/
def Alike (i j : Interval) : Prop := i.lo.eqv j.lo = true ∧ i.hi.eqv j.hi = true

/-- Intervals inside one another have equal ends. -/
theorem alike_of_inside_of_inside {i j : Interval} (h : i.inside j = true)
    (h' : j.inside i = true) : i.Alike j := by
  rw [inside, Bool.and_eq_true] at h h'
  exact ⟨Double.eqv_of_le_of_le h'.1 h.1, Double.eqv_of_le_of_le h.2 h'.2⟩

/-! ## Taking in a number -/

/-- With a number taken in, an interval lies inside those that contain the number too; what is not a
number is passed over. -/
theorem Numeric.inside_extend_iff {i : Interval} (h : i.Numeric) (x : Double) {j : Interval} :
    (i.extend x).inside j = true ↔
      i.inside j = true ∧ (x.isNaN = false → j.contains x = true) := by
  cases hx : x.isNaN with
  | true =>
    rw [Interval.extend, Double.min_of_isNaN h.lo hx, Double.max_of_isNaN h.hi hx]
    simp
  | false =>
    simp only [inside, Interval.extend, contains, Bool.and_eq_true, Double.le_min_iff h.lo hx,
      Double.max_le_iff h.hi hx, forall_const]
    tauto

/-- An interval contains a number that it has taken in. -/
theorem contains_extend_self (i : Interval) {x : Double} (h : x.isNaN = false) :
    (i.extend x).contains x = true := by
  rw [contains, Bool.and_eq_true]
  simp only [extend]
  constructor
  · unfold Double.min
    split
    · exact Double.le_refl h
    · next hmin =>
      rw [Bool.not_eq_true, Bool.or_eq_false_iff] at hmin
      exact (Double.lt_eq_false_iff h hmin.1).1 hmin.2
  · unfold Double.max
    split
    · exact Double.le_refl h
    · next hmax =>
      rw [Bool.not_eq_true, Bool.or_eq_false_iff] at hmax
      exact (Double.lt_eq_false_iff hmax.1 h).1 hmax.2

/-- An interval keeps what it contains. -/
theorem contains_extend {i : Interval} {y : Double} (x : Double) (h : i.contains y = true) :
    (i.extend x).contains y = true := by
  have numeric := numeric_of_contains h
  exact contains_of_inside ((numeric.inside_extend_iff x).1 (numeric.extend x).inside_self).1 h

theorem Valid.extend {i : Interval} (h : i.Valid) {x : Double} (hx : x.isFinite = true) :
    (i.extend x).Valid where
  lo_finite := by
    rcases Double.min_eq_or i.lo x with he | he <;> simp only [Interval.extend, he]
    · exact h.lo_finite
    · exact hx
  hi_finite := by
    rcases Double.max_eq_or i.hi x with he | he <;> simp only [Interval.extend, he]
    · exact h.hi_finite
    · exact hx
  lo_le_hi := by
    have := contains_extend x h.contains_lo
    rw [contains, Bool.and_eq_true] at this
    exact Double.le_trans this.1 this.2

/-- The interval of one finite number has that number at both ends. -/
theorem single_eq {x : Double} (h : x.isFinite = true) : single x = ⟨x, x⟩ := by
  obtain ⟨negative, units, fits, rfl⟩ := Double.eq_finite_of_isFinite h
  obtain ⟨hbelow, habove⟩ := Double.signed_lt_signed negative fits.1
  have hlo : (Double.finite negative units fits).lt (.infinite false) = true :=
    (Double.lt_iff_of_position rfl rfl).2 habove
  have hhi : (Double.infinite true).lt (.finite negative units fits) = true :=
    (Double.lt_iff_of_position rfl rfl).2 hbelow
  simp only [single, empty, Interval.extend, Double.min, Double.max, hlo, hhi, Bool.or_true,
    if_true]

theorem valid_single {x : Double} (h : x.isFinite = true) : (single x).Valid := by
  rw [single_eq h]
  exact ⟨h, h, Double.le_refl (Double.isNaN_of_isFinite h)⟩

theorem single_inside {i : Interval} {x : Double} (h : x.isFinite = true) :
    (single x).inside i = i.contains x := by
  rw [single_eq h]
  rfl

/-- With a number taken in, an interval lies inside another one exactly if it did so before, and the
interval of the number alone does. -/
theorem Valid.inside_extend_iff {i j : Interval} (h : i.Valid) {x : Double}
    (hx : x.isFinite = true) :
    (i.extend x).inside j = true ↔ i.inside j = true ∧ (single x).inside j = true := by
  simp only [h.numeric.inside_extend_iff, Double.isNaN_of_isFinite hx, single_inside hx,
    forall_const]

end Interval

/-! ## Numbers -/

namespace Number

theorem isFinite_toDouble (n : Number) : n.toDouble.isFinite = true := by
  cases n with
  | integer value fits => exact Double.isFinite_ofInt (by omega)
  | double value finite => exact finite

theorem isNaN_toDouble (n : Number) : n.toDouble.isNaN = false :=
  Double.isNaN_of_isFinite n.isFinite_toDouble

/-- Where the nearest double is safe, nothing is lost. -/
theorem position_toDouble {n : Number} (h : n.toDouble.isSafe = true) :
    n.toDouble.position = some n.position := by
  cases n with
  | integer value fits => exact Double.position_ofInt_of_isSafe h
  | double value finite =>
    obtain ⟨p, hp⟩ := Double.exists_position (Double.isNaN_of_isFinite finite)
    simp only [toDouble, position, hp, Option.getD_some]

/-- A number that counts as an integer denotes a whole value. -/
theorem exists_position_eq_mul {n : Number} (h : n.isIntegral = true) :
    ∃ k : Int, n.position = k * Double.unitsPerOne := by
  cases n with
  | integer value fits => exact ⟨value, rfl⟩
  | double value finite =>
    obtain ⟨negative, units, fits, rfl⟩ := Double.eq_finite_of_isFinite finite
    simp only [isIntegral, Bool.and_eq_true, Double.isWhole, beq_iff_eq] at h
    obtain ⟨w, hw⟩ := Nat.dvd_of_mod_eq_zero h.1
    refine ⟨Double.signed negative w, ?_⟩
    simp only [position, Double.position, Option.getD_some]
    rw [hw, Nat.mul_comm, Double.signed_mul]

end Number

end JsonShape
