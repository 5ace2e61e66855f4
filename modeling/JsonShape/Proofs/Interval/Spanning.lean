import Mathlib.Data.List.Induction
import JsonShape.Proofs.Interval

/-!
# The interval of a list of numbers

`Interval.spanning` goes from the least to the greatest of some doubles, each found by comparing it with
all of them. One more number widens it as taking the number in does (`spanning_append`).
-/

set_option autoImplicit false

namespace JsonShape

/-- The first of a list that stands in a relation to all of it. -/
def foremost {α : Type} (r : α → α → Bool) (xs : List α) : Option α :=
  xs.find? fun x => xs.all (r x)

/-- `b ≤ a`. -/
def Double.ge (a b : Double) : Bool := b.le a

/-- From the least to the greatest of some doubles; of equal ones the first. -/
def Interval.spanning (xs : List Double) : Interval where
  lo := (foremost Double.le xs).getD .nan
  hi := (foremost Double.ge xs).getD .nan

/-- The foremost element stays unless a new one goes before it. -/
theorem foremost_append {α : Type} {r : α → α → Bool}
    (trans : ∀ {a b c}, r a b = true → r b c = true → r a c = true) {xs : List α} {m x : α}
    (hm : foremost r xs = some m) (hx : r x x = true) (total : r m x = true ∨ r x m = true) :
    foremost r (xs ++ [x]) = some (if r m x then m else x) := by
  obtain ⟨before, as, bs, rfl, after⟩ := List.find?_eq_some_iff_append.1 hm
  have least : ∀ y ∈ as ++ m :: bs, r m y = true := List.all_eq_true.1 before
  rw [foremost]
  split
  · next hmx =>
    refine List.find?_eq_some_iff_append.2 ⟨?_, as, bs ++ [x], by simp, fun a ha => ?_⟩
    · rw [List.all_append, before]
      simpa using hmx
    · have ha := after a ha
      rw [List.all_append]
      simp_all
  · next hmx =>
    have hxm := total.resolve_left hmx
    refine List.find?_eq_some_iff_append.2 ⟨?_, as ++ m :: bs, [], by simp, fun a ha => ?_⟩
    · rw [List.all_append, List.all_eq_true.2 fun y hy => trans hxm (least y hy)]
      simpa using hx
    · -- what goes before all of the list and before the new element would let `m` go before it
      rw [Bool.not_eq_true']
      by_contra hall
      rw [Bool.not_eq_false, List.all_append, Bool.and_eq_true] at hall
      exact hmx (trans (least a ha) (by simpa using hall.2))

theorem Double.ge_trans {a b c : Double} (h : a.ge b = true) (h' : b.ge c = true) :
    a.ge c = true := Double.le_trans h' h

namespace Interval

theorem foremost_singleton {α : Type} {r : α → α → Bool} {x : α} (h : r x x = true) :
    foremost r [x] = some x := by simp [foremost, h]

/-- The ends of the numbers of a list. -/
theorem exists_ends {xs : List Double} (h : xs ≠ []) (finite : ∀ x ∈ xs, x.isFinite = true) :
    ∃ lo ∈ xs, ∃ hi ∈ xs, foremost Double.le xs = some lo ∧ foremost Double.ge xs = some hi := by
  induction xs using List.reverseRecOn with
  | nil => exact absurd rfl h
  | append_singleton xs x ih =>
    have hx := Double.isNaN_of_isFinite (finite x (by simp))
    have self := Double.le_refl hx
    by_cases hxs : xs = []
    · subst hxs
      exact ⟨x, by simp, x, by simp, foremost_singleton self, foremost_singleton self⟩
    · obtain ⟨lo, hlo, hi, hhi, elo, ehi⟩ := ih hxs fun y hy => finite y (by simp [hy])
      have total : ∀ y ∈ xs, y.le x = true ∨ x.le y = true := fun y hy =>
        Double.le_total (Double.isNaN_of_isFinite (finite y (by simp [hy]))) hx
      refine ⟨_, ?_, _, ?_,
        foremost_append (r := Double.le) Double.le_trans elo self (total lo hlo),
        foremost_append (r := Double.ge) Double.ge_trans ehi self (total hi hhi).symm⟩
      · split <;> simp [hlo]
      · split <;> simp [hhi]

theorem spanning_singleton {x : Double} (h : x.isFinite = true) : spanning [x] = single x := by
  have self := Double.le_refl (Double.isNaN_of_isFinite h)
  rw [single_eq h, spanning, foremost_singleton (r := Double.le) self,
    foremost_singleton (r := Double.ge) self]
  rfl

/-- The ends of more numbers are those of the interval with one more taken in. -/
theorem spanning_append {xs : List Double} (h : xs ≠ []) (finite : ∀ x ∈ xs, x.isFinite = true)
    {x : Double} (hx : x.isFinite = true) : spanning (xs ++ [x]) = (spanning xs).extend x := by
  obtain ⟨lo, hlo, hi, hhi, elo, ehi⟩ := exists_ends h finite
  have nan : ∀ {y : Double}, y.isFinite = true → y.isNaN = false := Double.isNaN_of_isFinite
  have self := Double.le_refl (nan hx)
  have total : ∀ y ∈ xs, y.le x = true ∨ x.le y = true := fun y hy =>
    Double.le_total (nan (finite y hy)) (nan hx)
  rw [spanning, spanning, elo, ehi,
    foremost_append (r := Double.le) Double.le_trans elo self (total lo hlo),
    foremost_append (r := Double.ge) Double.ge_trans ehi self (total hi hhi).symm]
  simp only [Interval.extend, Option.getD_some]
  rw [Double.min_eq_ite (nan (finite lo hlo)) (nan hx),
    Double.max_eq_ite (nan (finite hi hhi)) (nan hx)]
  rfl

end Interval

end JsonShape
