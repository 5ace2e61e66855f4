import Mathlib.Tactic.Ring
import JsonShape.Proofs.Double.Order

/-!
# Rounding to doubles

Rounding depends on the ratio only (`ofUnits_scale`) and leaves alone what is a double already
(`ofUnits_exact`). Hence an integer of at most `2 ^ 53` in size is its own nearest double
(`position_ofInt`), and one past that size is rounded to a double past it, so that a nearest double
in the safe range is exact (`position_ofInt_of_isSafe`).
-/

set_option autoImplicit false

namespace JsonShape

namespace Double

/-- The exponent of the unit is a variable here: as a literal it would be computed with. -/
theorem unitsPerOne_eq {e : Nat} (he : e = 1074) : unitsPerOne = 2 ^ e := by
  have : unitsPerOne = 1 <<< e := by rw [he]; rfl
  rw [this, Nat.shiftLeft_eq, Nat.one_mul]

theorem shiftLeft_eq_mul_unitsPerOne (n : Nat) : n <<< 1074 = n * unitsPerOne := by
  obtain ⟨e, he⟩ : ∃ e, e = 1074 := ⟨_, rfl⟩
  rw [unitsPerOne_eq he, ← he, Nat.shiftLeft_eq]

theorem unitsPerOne_pos : 0 < unitsPerOne := by
  obtain ⟨e, he⟩ : ∃ e, e = 1074 := ⟨_, rfl⟩
  rw [unitsPerOne_eq he]
  exact Nat.two_pow_pos e

theorem overflow_eq {m e : Nat} (hm : m = 1024) (he : e = 1074) : overflow = 2 ^ m * 2 ^ e := by
  have : overflow = 1 <<< (m + e) := by rw [hm, he]; rfl
  rw [this, Nat.shiftLeft_eq, Nat.one_mul, Nat.pow_add]

theorem lt_overflow {n : Nat} (h : n ≤ 2 ^ 100) : n * unitsPerOne < overflow := by
  obtain ⟨m, hm⟩ : ∃ m, m = 1024 := ⟨_, rfl⟩
  rw [overflow_eq hm rfl, ← unitsPerOne_eq rfl]
  refine Nat.mul_lt_mul_of_pos_right (Nat.lt_of_le_of_lt h ?_) unitsPerOne_pos
  exact Nat.pow_lt_pow_right (by decide) (by omega)

theorem overflow_pos : 0 < overflow := by
  have := lt_overflow (n := 0) (Nat.zero_le _)
  rwa [Nat.zero_mul] at this

/-! ## Ratios -/

theorem le_roundHalfEven (num den : Nat) : num / den ≤ roundHalfEven num den := by
  unfold roundHalfEven
  dsimp only
  split
  · exact Nat.le_refl _
  · split <;> omega

/-- A ratio that is whole is not changed. -/
theorem roundHalfEven_mul (n : Nat) {den : Nat} (h : 0 < den) : roundHalfEven (n * den) den = n := by
  simp [roundHalfEven, h, Nat.mul_div_cancel n h]

/-- Rounding depends on the ratio only. -/
theorem roundHalfEven_scale (num den : Nat) {k : Nat} (h : 0 < k) :
    roundHalfEven (num * k) (den * k) = roundHalfEven num den := by
  unfold roundHalfEven
  have hdouble : ∀ n, 2 * (n * k) = 2 * n * k := fun n => by ring
  simp only [Nat.mul_div_mul_right num den h, Nat.mul_mod_mul_right, hdouble,
    Nat.mul_lt_mul_right h]

theorem nearestUnits_scale (num den : Nat) {k : Nat} (h : 0 < k) :
    nearestUnits (num * k) (den * k) = nearestUnits num den := by
  have hshift : ∀ s, (den * k) <<< s = (den <<< s) * k := fun s => by
    simp only [Nat.shiftLeft_eq]; ring
  simp only [nearestUnits, Nat.mul_div_mul_right num den h, hshift, roundHalfEven_scale _ _ h]

theorem ofUnits_scale (negative : Bool) (num den : Nat) {k : Nat} (h : 0 < k) :
    ofUnits negative (num * k) (den * k) = ofUnits negative num den := by
  simp only [ofUnits, nearestUnits_scale num den h]

/-! ## Doubles as they are -/

/-- The bits that a multiple of at most 53 significant bits would lose are zeros. -/
theorem two_pow_excess_dvd {units : Nat} (h : ∃ m s, m < 1 <<< 53 ∧ units = m <<< s) :
    2 ^ excess units ∣ units := by
  obtain ⟨m, s, hm, rfl⟩ := h
  rw [Nat.shiftLeft_eq, Nat.one_mul] at hm
  rw [Nat.shiftLeft_eq]
  by_cases hz : m * 2 ^ s = 0
  · rw [hz]; exact Nat.dvd_zero _
  have hlog : (m * 2 ^ s).log2 < 53 + s := by
    rw [Nat.log2_lt hz, Nat.pow_add]
    exact Nat.mul_lt_mul_of_pos_right hm (Nat.two_pow_pos s)
  exact Nat.dvd_trans (Nat.pow_dvd_pow 2 (by unfold excess; omega)) (Nat.dvd_mul_left _ m)

theorem nearestUnits_exact {units : Nat} (h : ∃ m s, m < 1 <<< 53 ∧ units = m <<< s) {k : Nat}
    (hk : 0 < k) : nearestUnits (units * k) k = units := by
  obtain ⟨w, hw⟩ := two_pow_excess_dvd h
  have hpos : 0 < k * 2 ^ excess units := Nat.mul_pos hk (Nat.two_pow_pos _)
  have hnum : units * k = w * (k * 2 ^ excess units) := by
    conv_lhs => rw [hw]
    ring
  unfold nearestUnits
  rw [Nat.mul_div_cancel units hk]
  simp only [Nat.shiftLeft_eq]
  rw [hnum, roundHalfEven_mul w hpos, Nat.mul_comm w, ← hw]

theorem nearestUnits_zero : nearestUnits 0 1 = 0 := by
  have hzero : ∃ m s, m < 1 <<< 53 ∧ 0 = m <<< s := ⟨0, 0, by decide, rfl⟩
  have := nearestUnits_exact hzero Nat.one_pos
  rwa [Nat.zero_mul] at this

/-- A double is the nearest one to itself. -/
theorem ofUnits_exact (negative : Bool) {units : Nat} (fits : Fits units) {k : Nat} (hk : 0 < k) :
    ofUnits negative (units * k) k = .finite negative units fits := by
  simp only [ofUnits, nearestUnits_exact fits.2 hk, dif_pos fits.1]

/-! ## Integers -/

/-- At most `2 ^ 53` whole ones have at most 53 significant bits. -/
theorem fits_of_le {n : Nat} (h : n ≤ 2 ^ 53) : Fits (n * unitsPerOne) := by
  refine ⟨lt_overflow (Nat.le_trans h (by decide)), ?_⟩
  rw [← shiftLeft_eq_mul_unitsPerOne]
  rcases Nat.lt_or_eq_of_le h with hlt | rfl
  · exact ⟨n, 1074, hlt, rfl⟩
  · exact ⟨1 <<< 52, 1 + 1074, by decide, by rw [Nat.shiftLeft_add]; rfl⟩

theorem natAbs_signed (negative : Bool) (n : Nat) : (signed negative n).natAbs = n := by
  cases negative <;> simp [signed]

theorem signed_natAbs (n : Int) : signed (decide (n < 0)) n.natAbs = n := by
  unfold signed
  split
  · next h => simp only [decide_eq_true_eq] at h; omega
  · next h => simp only [decide_eq_true_eq] at h; omega

theorem signed_mul (negative : Bool) (n k : Nat) :
    signed negative (n * k) = signed negative n * (k : Int) := by
  cases negative <;> simp [signed]

/-- An integer of at most `2 ^ 53` in size is a double. -/
theorem position_ofInt {n : Int} (h : n.natAbs ≤ 2 ^ 53) :
    (ofInt n).position = some (n * unitsPerOne) := by
  have he := ofUnits_exact (decide (n < 0)) (fits_of_le h) Nat.one_pos
  rw [Nat.mul_one] at he
  rw [ofInt, he, position, signed_mul, signed_natAbs]

/-- What has more than 52 bits keeps its leading one. -/
theorem two_pow_le_nearestUnits {k num : Nat} (hk : 52 ≤ k) (h : 2 ^ k ≤ num) :
    2 ^ k ≤ nearestUnits num 1 := by
  have hnum : num ≠ 0 := by
    have := Nat.two_pow_pos k
    omega
  have hlog : k ≤ num.log2 := (Nat.le_log2 hnum).2 h
  have hlow : num.log2 = 52 + excess num := by unfold excess; omega
  unfold nearestUnits
  simp only [Nat.div_one, Nat.shiftLeft_eq, Nat.one_mul]
  calc 2 ^ k ≤ 2 ^ num.log2 := Nat.pow_le_pow_right (by decide) hlog
    _ = 2 ^ 52 * 2 ^ excess num := by rw [hlow, Nat.pow_add]
    _ ≤ num / 2 ^ excess num * 2 ^ excess num := by
        refine Nat.mul_le_mul_right _ ((Nat.le_div_iff_mul_le (Nat.two_pow_pos _)).2 ?_)
        rw [← Nat.pow_add, ← hlow]
        exact Nat.log2_self_le hnum
    _ ≤ roundHalfEven num (2 ^ excess num) * 2 ^ excess num :=
        Nat.mul_le_mul_right _ (le_roundHalfEven _ _)

theorem le_nearestUnits {num : Nat} (h : 2 ^ 53 * unitsPerOne ≤ num) :
    2 ^ 53 * unitsPerOne ≤ nearestUnits num 1 := by
  obtain ⟨e, he⟩ : ∃ e, e = 1074 := ⟨_, rfl⟩
  rw [unitsPerOne_eq he, ← Nat.pow_add] at h ⊢
  exact two_pow_le_nearestUnits (by omega) h

/-- Less than half a unit is nothing. -/
theorem nearestUnits_eq_zero {num den : Nat} (h : 2 * num < den) : nearestUnits num den = 0 := by
  have hdiv : num / den = 0 := Nat.div_eq_of_lt (by omega)
  have hmod : num % den = num := Nat.mod_eq_of_lt (by omega)
  have hexcess : excess 0 = 0 := by decide
  simp only [nearestUnits, hdiv, hexcess, Nat.shiftLeft_zero, roundHalfEven, hmod, if_pos h]

/-- Rounding at most doubles. -/
theorem nearestUnits_le {num : Nat} (h : num ≠ 0) : nearestUnits num 1 ≤ num + num := by
  have hlow : 2 ^ excess num ≤ num :=
    Nat.le_trans (Nat.pow_le_pow_right (by decide) (Nat.sub_le _ 52)) (Nat.log2_self_le h)
  unfold nearestUnits
  simp only [Nat.div_one, Nat.shiftLeft_eq, Nat.one_mul]
  calc roundHalfEven num (2 ^ excess num) * 2 ^ excess num
      ≤ (num / 2 ^ excess num + 1) * 2 ^ excess num :=
        Nat.mul_le_mul_right _ (roundHalfEven_le _ _)
    _ = num / 2 ^ excess num * 2 ^ excess num + 2 ^ excess num := by ring
    _ ≤ num + num := Nat.add_le_add (Nat.div_mul_le_self _ _) hlow

/-- An integer of at most `2 ^ 64` in size has a nearest double. -/
theorem isFinite_ofInt {n : Int} (h : n.natAbs ≤ 2 ^ 64) : (ofInt n).isFinite = true := by
  have hlt : nearestUnits (n.natAbs * unitsPerOne) 1 < overflow := by
    by_cases hz : n.natAbs * unitsPerOne = 0
    · rw [hz, nearestUnits_zero]
      exact overflow_pos
    · refine Nat.lt_of_le_of_lt (nearestUnits_le hz) ?_
      rw [← Nat.add_mul]
      exact lt_overflow (by omega)
  rw [ofInt, ofUnits, dif_pos hlt]
  rfl

theorem maxSafe_lt : maxSafe < 2 ^ 53 := by decide

theorem natAbs_position_le_of_isSafe {x : Double} {p : Int} (hp : x.position = some p)
    (h : x.isSafe = true) : p.natAbs ≤ maxSafe * unitsPerOne := by
  simp only [isSafe, hp, decide_eq_true_eq] at h
  omega

/-- A nearest double in the safe range is the integer itself. -/
theorem position_ofInt_of_isSafe {n : Int} (h : (ofInt n).isSafe = true) :
    (ofInt n).position = some (n * unitsPerOne) := by
  by_cases hn : n.natAbs ≤ 2 ^ 53
  · exact position_ofInt hn
  exfalso
  have hle : 2 ^ 53 * unitsPerOne ≤ nearestUnits (n.natAbs * unitsPerOne) 1 :=
    le_nearestUnits (Nat.mul_le_mul_right _ (by omega))
  have hlt : maxSafe * unitsPerOne < 2 ^ 53 * unitsPerOne :=
    Nat.mul_lt_mul_of_pos_right maxSafe_lt unitsPerOne_pos
  have hover : 2 ^ 53 * unitsPerOne ≤ overflow := Nat.le_of_lt (lt_overflow (by decide))
  obtain ⟨p, hp⟩ : ∃ p, (ofInt n).position = some p ∧ 2 ^ 53 * unitsPerOne ≤ p.natAbs := by
    unfold ofInt ofUnits
    split
    · exact ⟨_, rfl, by rw [natAbs_signed]; exact hle⟩
    · exact ⟨_, rfl, by rw [natAbs_signed]; exact hover⟩
  have := natAbs_position_le_of_isSafe hp.1 h
  omega

end Double

end JsonShape
