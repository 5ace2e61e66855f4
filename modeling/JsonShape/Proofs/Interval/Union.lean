import JsonShape.Proofs.Interval

/-!
# Intervals of lists of numbers, and their unions

Any doubles may be taken in, infinities among them; what is not a number is passed over. The proofs
go through what an interval lies inside of: a union lies inside an interval if both parts do
(`inside_union_iff`), and the interval of a list if all numbers of the list are contained
(`inside_ofList_iff`), so the laws of unions are those of "and". Two intervals that lie inside the
same ones have equal ends (`alike_of_inside_iff`).

`extendAll_alike_union_and_least` puts together what is known about the interval of a list: it is the
union of the intervals of its parts, and the least that contains all numbers.
-/

set_option autoImplicit false

namespace JsonShape

namespace Interval

variable {i j k : Interval} {x : Double}

/-! ## Lying inside -/

theorem numeric_empty : empty.Numeric := ⟨rfl, rfl⟩

theorem numeric_single (x : Double) : (single x).Numeric := numeric_empty.extend x

theorem Numeric.union (h : i.Numeric) (j : Interval) : (i.union j).Numeric :=
  ⟨Double.isNaN_min h.lo, Double.isNaN_max h.hi⟩

/-- Intervals that lie inside the same ones have equal ends. -/
theorem alike_of_inside_iff (hi : i.Numeric) (hj : j.Numeric)
    (h : ∀ k : Interval, k.Numeric → (i.inside k = true ↔ j.inside k = true)) : i.Alike j :=
  alike_of_inside_of_inside ((h j hj).2 hj.inside_self) ((h i hi).1 hi.inside_self)

/-- The interval of no numbers lies inside every other one. -/
theorem empty_inside (h : i.Numeric) : empty.inside i = true := by
  rw [inside, Bool.and_eq_true]
  exact ⟨Double.le_infinite_false h.lo, Double.infinite_true_le h.hi⟩

/-- A union lies inside an interval exactly if both parts do. -/
theorem inside_union_iff (hi : i.Numeric) (hj : j.Numeric) :
    (i.union j).inside k = true ↔ i.inside k = true ∧ j.inside k = true := by
  simp only [inside, union, Bool.and_eq_true, Double.le_min_iff hi.lo hj.lo,
    Double.max_le_iff hi.hi hj.hi]
  tauto

/-! ## Empty intervals -/

theorem isEmpty_eq_false_of_contains (h : i.contains x = true) : i.isEmpty = false := by
  obtain ⟨lo, hi⟩ := numeric_of_contains h
  rw [contains, Bool.and_eq_true] at h
  exact (Double.lt_eq_false_iff hi lo).2 (Double.le_trans h.1 h.2)

theorem isEmpty_of_inside_empty (h : i.Numeric) (inside : i.inside empty = true) :
    i.isEmpty = true := by
  by_contra ordered
  rw [Bool.not_eq_true, isEmpty, Double.lt_eq_false_iff h.hi h.lo] at ordered
  rw [Interval.inside, Bool.and_eq_true] at inside
  have crossed := Double.le_trans (Double.le_trans inside.1 ordered) inside.2
  exact absurd crossed (by decide +kernel)

/-! ## Unions -/

theorem union_comm (hi : i.Numeric) (hj : j.Numeric) : (i.union j).Alike (j.union i) := by
  refine alike_of_inside_iff (hi.union j) (hj.union i) fun k _ => ?_
  rw [inside_union_iff hi hj, inside_union_iff hj hi, and_comm]

theorem union_assoc (hi : i.Numeric) (hj : j.Numeric) (hk : k.Numeric) :
    ((i.union j).union k).Alike (i.union (j.union k)) := by
  refine alike_of_inside_iff ((hi.union j).union k) (hi.union (j.union k)) fun l _ => ?_
  rw [inside_union_iff (hi.union j) hk, inside_union_iff hi hj,
    inside_union_iff hi (hj.union k), inside_union_iff hj hk, and_assoc]

theorem union_self (hi : i.Numeric) : (i.union i).Alike i := by
  refine alike_of_inside_iff (hi.union i) hi fun k _ => ?_
  rw [inside_union_iff hi hi, and_self_iff]

theorem union_empty (hi : i.Numeric) : (i.union empty).Alike i := by
  refine alike_of_inside_iff (hi.union empty) hi fun k hk => ?_
  rw [inside_union_iff hi numeric_empty, and_iff_left (empty_inside hk)]

/-! ## Numbers one after another -/

/-- An interval with numbers taken in, in order. -/
def extendAll (i : Interval) (xs : List Double) : Interval := xs.foldl extend i

/-- The interval of the numbers of a list. -/
def ofList (xs : List Double) : Interval := empty.extendAll xs

theorem extendAll_append (i : Interval) (xs ys : List Double) :
    i.extendAll (xs ++ ys) = (i.extendAll xs).extendAll ys := List.foldl_append

theorem Numeric.extendAll (h : i.Numeric) (xs : List Double) : (i.extendAll xs).Numeric := by
  induction xs generalizing i with
  | nil => exact h
  | cons x xs ih => exact ih (h.extend x)

theorem inside_extendAll_iff (h : i.Numeric) (xs : List Double) :
    (i.extendAll xs).inside k = true ↔
      i.inside k = true ∧ ∀ x ∈ xs, x.isNaN = false → k.contains x = true := by
  induction xs generalizing i with
  | nil => simp [Interval.extendAll]
  | cons x xs ih =>
    rw [Interval.extendAll, List.foldl_cons, ← Interval.extendAll, ih (h.extend x),
      h.inside_extend_iff, List.forall_mem_cons, and_assoc]

/-- What chooses one of two each time ends at what it began with or at one of the list. -/
theorem foldl_eq_or_mem {α : Type} {choose : α → α → α}
    (chooses : ∀ a b, choose a b = a ∨ choose a b = b) (a : α) (xs : List α) :
    xs.foldl choose a = a ∨ xs.foldl choose a ∈ xs := by
  induction xs generalizing a with
  | nil => exact .inl rfl
  | cons x xs ih =>
    rcases ih (choose a x) with unchanged | later
    · rcases chooses a x with old | new
      · exact .inl (unchanged.trans old)
      · exact .inr (List.mem_cons.2 (.inl (unchanged.trans new)))
    · exact .inr (List.mem_cons_of_mem x later)

/-- The lower end comes from the lower end alone, and the upper end from the upper one. -/
theorem extendAll_eq (i : Interval) (xs : List Double) :
    i.extendAll xs = ⟨xs.foldl Double.min i.lo, xs.foldl Double.max i.hi⟩ := by
  induction xs generalizing i with
  | nil => rfl
  | cons x xs ih => exact ih (i.extend x)

theorem lo_extendAll (i : Interval) (xs : List Double) :
    (i.extendAll xs).lo = i.lo ∨ (i.extendAll xs).lo ∈ xs := by
  rw [extendAll_eq]
  exact foldl_eq_or_mem Double.min_eq_or i.lo xs

theorem hi_extendAll (i : Interval) (xs : List Double) :
    (i.extendAll xs).hi = i.hi ∨ (i.extendAll xs).hi ∈ xs := by
  rw [extendAll_eq]
  exact foldl_eq_or_mem Double.max_eq_or i.hi xs

/-! ## The interval of a list -/

section
variable {xs ys zs : List Double}

theorem numeric_ofList (xs : List Double) : (ofList xs).Numeric := numeric_empty.extendAll xs

/-- The interval of a list is the least of those that contain all of its numbers. -/
theorem inside_ofList_iff (h : k.Numeric) :
    (ofList xs).inside k = true ↔ ∀ x ∈ xs, x.isNaN = false → k.contains x = true := by
  rw [ofList, inside_extendAll_iff numeric_empty, and_iff_right (empty_inside h)]

theorem contains_ofList (hx : x ∈ xs) (number : x.isNaN = false) :
    (ofList xs).contains x = true :=
  (inside_ofList_iff (numeric_ofList xs)).1 (numeric_ofList xs).inside_self x hx number

/-- The ends are the wrong way round as long as no number has come, and never after that: an infinity
that has come is at both ends. -/
theorem isEmpty_ofList_iff : (ofList xs).isEmpty = true ↔ ∀ x ∈ xs, x.isNaN = true := by
  constructor
  · intro h x hx
    by_contra number
    rw [Bool.not_eq_true] at number
    have := isEmpty_eq_false_of_contains (contains_ofList hx number)
    rw [h] at this
    cases this
  · intro h
    refine isEmpty_of_inside_empty (numeric_ofList xs) ((inside_ofList_iff numeric_empty).2 ?_)
    intro x hx number
    rw [h x hx] at number
    cases number

theorem exists_number_mem (h : (ofList xs).isEmpty = false) : ∃ x ∈ xs, x.isNaN = false := by
  rw [← Bool.not_eq_true, isEmpty_ofList_iff] at h
  simpa using h

/-- The ends of the interval of a list are numbers of the list. -/
theorem ends_ofList_mem (h : (ofList xs).isEmpty = false) :
    (ofList xs).lo ∈ xs ∧ (ofList xs).hi ∈ xs := by
  obtain ⟨x, hx, number⟩ := exists_number_mem h
  have inside := contains_ofList hx number
  rw [contains, Bool.and_eq_true] at inside
  constructor
  · rcases lo_extendAll empty xs with first | hm
    · -- the end is infinite as it was at first, so the number is that infinity
      have infinite : (ofList xs).lo = .infinite false := first
      rw [infinite] at inside ⊢
      rwa [← Double.eq_infinite_of_eqv
        (Double.eqv_of_le_of_le (Double.le_infinite_false number) inside.1)]
    · exact hm
  · rcases hi_extendAll empty xs with first | hm
    · have infinite : (ofList xs).hi = .infinite true := first
      rw [infinite] at inside ⊢
      rwa [← Double.eq_infinite_of_eqv
        (Double.eqv_of_le_of_le inside.2 (Double.infinite_true_le number))]
    · exact hm

/-- What contains all numbers of a list contains all that the interval of the list contains. -/
theorem contains_of_contains_ofList
    (h : ∀ x ∈ xs, x.isNaN = false → j.contains x = true) {y : Double}
    (hy : (ofList xs).contains y = true) : j.contains y = true := by
  obtain ⟨x, hx, number⟩ := exists_number_mem (isEmpty_eq_false_of_contains hy)
  have numeric := numeric_of_contains (h x hx number)
  exact contains_of_inside ((inside_ofList_iff numeric).2 h) hy

/-- The interval of what stands in one of two lists is the union of their intervals. -/
theorem ofList_alike_union (h : ∀ x, x ∈ zs ↔ x ∈ xs ∨ x ∈ ys) :
    (ofList zs).Alike ((ofList xs).union (ofList ys)) := by
  have left := numeric_ofList xs
  have right := numeric_ofList ys
  refine alike_of_inside_iff (numeric_ofList zs) (left.union _) fun k hk => ?_
  rw [inside_union_iff left right, inside_ofList_iff hk, inside_ofList_iff hk,
    inside_ofList_iff hk]
  simp only [h, or_imp, forall_and]

theorem numeric_union_singles : ∀ xs : List Double, ((xs.map single).foldr union empty).Numeric
  | [] => numeric_empty
  | x :: _ => (numeric_single x).union _

theorem inside_union_singles_iff (h : k.Numeric) (xs : List Double) :
    ((xs.map single).foldr union empty).inside k = true ↔
      ∀ x ∈ xs, x.isNaN = false → k.contains x = true := by
  induction xs with
  | nil => simp [empty_inside h]
  | cons x xs ih =>
    rw [List.map_cons, List.foldr_cons,
      inside_union_iff (numeric_single x) (numeric_union_singles xs), ih, List.forall_mem_cons,
      single, numeric_empty.inside_extend_iff, and_iff_right (empty_inside h)]

/-- The interval of a list is the union of the intervals of its numbers, one by one. -/
theorem ofList_alike_union_singles (xs : List Double) :
    (ofList xs).Alike ((xs.map single).foldr union empty) := by
  refine alike_of_inside_iff (numeric_ofList xs) (numeric_union_singles xs) fun k hk => ?_
  rw [inside_ofList_iff hk, inside_union_singles_iff hk]

end

/-- Taking in the numbers of two lists comes to the union of their intervals, in either order. The
unions of such intervals are commutative, idempotent and associative, the empty interval is their unit,
and every such interval is a union of single numbers. What comes out is empty only if there is no number
in the lists. It contains all of their numbers, ends at two of them, and is the least that does. -/
theorem extendAll_alike_union_and_least (xs ys : List Double) :
    let left := empty.extendAll xs
    let right := empty.extendAll ys
    let both := left.extendAll ys
    (both.Alike (left.union right) ∧ both.Alike (right.union left)) ∧
    ((left.union right).Alike (right.union left) ∧ (left.union left).Alike left ∧
      (left.union empty).Alike left ∧
      (∀ zs, ((left.union right).union (empty.extendAll zs)).Alike
        (left.union (right.union (empty.extendAll zs)))) ∧
      left.Alike ((xs.map single).foldr union empty)) ∧
    (both.isEmpty = true ↔ ∀ x ∈ xs ++ ys, x.isNaN = true) ∧
    (∀ x ∈ xs ++ ys, x.isNaN = false → both.contains x = true) ∧
    (both.isEmpty = false → both.lo ∈ xs ++ ys ∧ both.hi ∈ xs ++ ys) ∧
    ∀ j : Interval, (∀ x ∈ xs ++ ys, x.isNaN = false → j.contains x = true) →
      ∀ y, both.contains y = true → j.contains y = true := by
  intro left right both
  have whole : both = ofList (xs ++ ys) := (extendAll_append empty xs ys).symm
  have hl : left.Numeric := numeric_ofList xs
  have hr : right.Numeric := numeric_ofList ys
  rw [whole]
  refine ⟨⟨?_, ?_⟩, ⟨union_comm hl hr, union_self hl, union_empty hl,
    fun zs => union_assoc hl hr (numeric_ofList zs), ofList_alike_union_singles xs⟩,
    isEmpty_ofList_iff, fun x hx => contains_ofList hx, ends_ofList_mem,
    fun j h y => contains_of_contains_ofList h⟩
  · exact ofList_alike_union fun x => List.mem_append
  · exact ofList_alike_union fun x => List.mem_append.trans or_comm

end Interval

end JsonShape
