import Mathlib.Data.List.Induction
import Mathlib.Data.String.Basic
import Mathlib.Order.Bounds.Defs
import JsonShape.Json.Printer
import JsonShape.Proofs.Schema.Fitting
import JsonShape.Proofs.Shape.Meaning
import JsonShape.Proofs.Text.Digits

/-!
# Bounds are exact

A list of numbers gets bounds exactly if they are asked for, two of the numbers differ and all of them
are safe (`Number.Spread`), compared without rounding; the bounds are then the least and the greatest
number themselves (`Schema.TightBounds`), and they are spelled as integers where the schema admits
integers only (`toDocument_bounds_exact`).

What is kept of the numbers are nearest doubles. A number is safe exactly if its nearest double is
(`Number.isSafe_toDouble_iff`), and then nothing has been rounded, so what the range says of doubles
it says of the numbers.
-/

set_option autoImplicit false

namespace JsonShape

/-! ## Integers in text -/

/-- Written with digits alone, after a sign if it is negative: without a point and an exponent. -/
def Number.WrittenWhole (n : Number) : Prop := ∀ c ∈ n.text, isAsciiDigit c = true ∨ c = '-'

/-- The text of a double shows that it is one. -/
theorem Double.exists_mark_text {x : Double} (h : x.isFinite = true) :
    ∃ c ∈ x.text json, c = '.' ∨ c = 'e' := by
  obtain ⟨negative, units, fits, rfl⟩ := eq_finite_of_isFinite h
  have positional (digits : List Char) (exponent : Int) :
      '.' ∈ writePositional json digits exponent := by
    simp only [writePositional, json]
    split
    · simp
    · split <;> simp
  have exponential (digits : List Char) (leading : Int) : 'e' ∈ writeExponential digits leading := by
    simp [writeExponential]
  have magnitude : ∃ c ∈ if units = 0 then '0' :: (if json.point then ['.', '0'] else [])
      else json.decimal (shortest units), c = '.' ∨ c = 'e' := by
    split
    · exact ⟨'.', by simp [json], .inl rfl⟩
    · unfold Layout.decimal
      dsimp only
      split
      · exact ⟨'.', positional _ _, .inl rfl⟩
      · split
        · exact ⟨'.', positional _ _, .inl rfl⟩
        · exact ⟨'e', exponential _ _, .inr rfl⟩
  obtain ⟨c, hc, mark⟩ := magnitude
  exact ⟨c, List.mem_append_right _ hc, mark⟩

namespace Number

theorem writtenWhole_of_ofInt? {k : Int} {n : Number} (h : ofInt? k = some n) : n.WrittenWhole := by
  unfold ofInt? at h
  split at h
  · obtain rfl := Option.some.inj h
    intro c hc
    rw [text, integerText, List.mem_append] at hc
    rcases hc with hc | hc
    · split at hc
      · exact .inr (List.mem_singleton.1 hc)
      · cases hc
    · exact .inl (isAsciiDigit_of_mem_toDigits hc)
  · cases h

theorem not_writtenWhole_of_ofDouble? {x : Double} {n : Number} (h : ofDouble? x = some n) :
    ¬ n.WrittenWhole := by
  unfold ofDouble? at h
  split at h
  · next finite =>
    obtain rfl := Option.some.inj h
    intro whole
    obtain ⟨c, hc, mark⟩ := Double.exists_mark_text finite
    rcases whole c hc with digit | sign
    · rcases mark with rfl | rfl <;> simp [isAsciiDigit] at digit
    · rcases mark with rfl | rfl <;> simp at sign
  · cases h

/-! ## Safe numbers -/

/-- A number lies within `-maxSafe` and `maxSafe`, compared without rounding. -/
def IsSafe (n : Number) : Prop := n.position.natAbs ≤ Double.maxSafe * Double.unitsPerOne

theorem isSafe_of_position {x : Double} {p : Int} (hp : x.position = some p) :
    x.isSafe = true ↔ p.natAbs ≤ Double.maxSafe * Double.unitsPerOne := by
  simp only [Double.isSafe, hp, decide_eq_true_eq]
  omega

/-- A number is safe exactly if its nearest double is. -/
theorem isSafe_toDouble_iff {n : Number} : n.toDouble.isSafe = true ↔ n.IsSafe := by
  constructor
  · intro h
    exact (isSafe_of_position (position_toDouble h)).1 h
  · intro h
    refine (isSafe_of_position ?_).2 h
    cases n with
    | integer value fits =>
      rw [IsSafe, position, Int.natAbs_mul, Int.natAbs_natCast] at h
      have small := Nat.le_of_mul_le_mul_right h Double.unitsPerOne_pos
      have := Double.maxSafe_lt
      exact Double.position_ofInt (by omega)
    | double value finite =>
      obtain ⟨p, hp⟩ := Double.exists_position (Double.isNaN_of_isFinite finite)
      simp only [toDouble, position, hp, Option.getD_some]

/-- The nearest double of a safe number is the number. -/
theorem IsSafe.position_toDouble {n : Number} (h : n.IsSafe) :
    n.toDouble.position = some n.position :=
  Number.position_toDouble (isSafe_toDouble_iff.2 h)

/-- A safe number that counts as an integer is a double without a fraction. -/
theorem IsSafe.isWhole_toDouble {n : Number} (h : n.IsSafe) (whole : n.isIntegral = true) :
    n.toDouble.isWhole = true := by
  obtain ⟨k, hk⟩ := exists_position_eq_mul whole
  have hp := h.position_toDouble
  obtain ⟨negative, units, fits, hx⟩ := Double.eq_finite_of_isFinite n.isFinite_toDouble
  rw [hx, Double.position, hk, Option.some.injEq] at hp
  have size : units = k.natAbs * Double.unitsPerOne := by
    rw [← Double.natAbs_signed negative units, hp, Int.natAbs_mul, Int.natAbs_natCast]
  rw [hx, Double.isWhole, size, Nat.mul_mod_left, beq_self_eq_true]

/-- What it takes for numbers to get bounds, if bounds are asked for: two of them differ, and all are
safe. -/
structure Spread (ns : List Number) : Prop where
  differ : ∃ m ∈ ns, ∃ n ∈ ns, m.position ≠ n.position
  safe : ∀ n ∈ ns, n.IsSafe

end Number

/-! ## The range of some numbers -/

section
variable {ns : List Number} {least greatest : Number}

/-- Two of some numbers such that the nearest doubles of all lie between theirs. -/
structure Number.Ends (ns : List Number) (least greatest : Number) : Prop where
  least_mem : least ∈ ns
  greatest_mem : greatest ∈ ns
  between : ∀ n ∈ ns, least.toDouble.le n.toDouble = true ∧ n.toDouble.le greatest.toDouble = true

theorem all_of_foremost {α : Type} {r : α → α → Bool} {xs : List α} {m : α}
    (h : foremost r xs = some m) : ∀ x ∈ xs, r m x = true :=
  List.all_eq_true.1 (List.find?_some (p := fun x => xs.all (r x)) h)

theorem Number.exists_ends (h : ns ≠ []) : ∃ least greatest, Number.Ends ns least greatest ∧
    Interval.spanning (ns.map toDouble) = ⟨least.toDouble, greatest.toDouble⟩ := by
  have finite : ∀ x ∈ ns.map toDouble, x.isFinite = true :=
    List.forall_mem_map.2 fun n _ => n.isFinite_toDouble
  obtain ⟨lo, hlo, hi, hhi, elo, ehi⟩ := Interval.exists_ends (by simpa using h) finite
  obtain ⟨least, hleast, rfl⟩ := List.mem_map.1 hlo
  obtain ⟨greatest, hgreatest, rfl⟩ := List.mem_map.1 hhi
  refine ⟨least, greatest, ⟨hleast, hgreatest, fun n hn => ?_⟩, ?_⟩
  · have hx := List.mem_map_of_mem (f := toDouble) hn
    exact ⟨all_of_foremost elo _ hx, all_of_foremost ehi _ hx⟩
  · rw [Interval.spanning, elo, ehi]
    rfl

namespace Number.Ends

variable (h : Number.Ends ns least greatest)
include h

theorem valid : Interval.Valid ⟨least.toDouble, greatest.toDouble⟩ where
  lo_finite := least.isFinite_toDouble
  hi_finite := greatest.isFinite_toDouble
  lo_le_hi := (h.between greatest h.greatest_mem).1

/-- Of safe numbers, the ends are the least and the greatest themselves. -/
theorem position_between (safe : ∀ n ∈ ns, n.IsSafe) {n : Number} (hn : n ∈ ns) :
    least.position ≤ n.position ∧ n.position ≤ greatest.position := by
  have lo := (safe least h.least_mem).position_toDouble
  have hi := (safe greatest h.greatest_mem).position_toDouble
  have mid := (safe n hn).position_toDouble
  have between := h.between n hn
  rwa [Double.le_iff_of_position lo mid, Double.le_iff_of_position mid hi] at between

/-- The range is safe exactly if all numbers are. -/
theorem isSafe_iff :
    Interval.isSafe ⟨least.toDouble, greatest.toDouble⟩ = true ↔ ∀ n ∈ ns, n.IsSafe := by
  rw [Interval.isSafe, Bool.and_eq_true]
  constructor
  · rintro ⟨lo, hi⟩ n hn
    have between := h.between n hn
    obtain ⟨p, x, hp, hx, hpx⟩ := Double.le_iff.1 between.1
    obtain ⟨x', q, hx', hq, hxq⟩ := Double.le_iff.1 between.2
    obtain rfl : x = x' := Option.some.inj (hx.symm.trans hx')
    rw [← Number.isSafe_toDouble_iff, Number.isSafe_of_position hx]
    rw [Number.isSafe_of_position hp] at lo
    rw [Number.isSafe_of_position hq] at hi
    omega
  · intro safe
    exact ⟨Number.isSafe_toDouble_iff.2 (safe least h.least_mem),
      Number.isSafe_toDouble_iff.2 (safe greatest h.greatest_mem)⟩

/-- Of safe numbers, two differ exactly if the ends of the range do. -/
theorem differ_iff (safe : ∀ n ∈ ns, n.IsSafe) :
    (∃ m ∈ ns, ∃ n ∈ ns, m.position ≠ n.position) ↔
      least.toDouble.eqv greatest.toDouble = false := by
  have lo := (safe least h.least_mem).position_toDouble
  have hi := (safe greatest h.greatest_mem).position_toDouble
  simp only [Double.eqv, lo, hi, decide_eq_false_iff_not]
  constructor
  · rintro ⟨m, hm, n, hn, ne⟩
    have := h.position_between safe hm
    have := h.position_between safe hn
    omega
  · intro ne
    exact ⟨least, h.least_mem, greatest, h.greatest_mem, ne⟩

/-- The range restricts exactly if the numbers differ and are safe. -/
theorem restricts_iff {options : RenderOptions} (asked : options.bounds = true) :
    Interval.Restricts ⟨least.toDouble, greatest.toDouble⟩ options ↔ Number.Spread ns := by
  constructor
  · rintro ⟨-, differ, safe⟩
    have safe := h.isSafe_iff.1 safe
    exact ⟨(h.differ_iff safe).2 differ, safe⟩
  · rintro ⟨differ, safe⟩
    exact ⟨asked, (h.differ_iff safe).1 differ, h.isSafe_iff.2 safe⟩

end Number.Ends

end

/-! ## Bounds -/

/-- The bounds of a schema are the least and the greatest of some numbers, which differ, and are
written as integers if the schema admits integers only. -/
structure Schema.TightBounds (s : Schema) (ns : List Number) (lo hi : Number) : Prop where
  minimum : s.minimum = some lo
  maximum : s.maximum = some hi
  least : IsLeast {p | p ∈ ns.map Number.position} lo.position
  greatest : IsGreatest {p | p ∈ ns.map Number.position} hi.position
  less : lo.position < hi.position
  lo_whole : lo.WrittenWhole ↔ s.types = some (.one .integer)
  hi_whole : hi.WrittenWhole ↔ s.types = some (.one .integer)

section
variable {ns : List Number} {least greatest : Number} (h : Number.Ends ns least greatest)
include h

/-- Bounds that stand where the ends of safe numbers are, are tight. -/
theorem Schema.tightBounds_of_ends (spread : Number.Spread ns) {s : Schema} {lo hi : Number}
    (minimum : s.minimum = some lo) (maximum : s.maximum = some hi)
    (hlo : least.toDouble.position = some lo.position)
    (hhi : greatest.toDouble.position = some hi.position)
    (whole : (lo.WrittenWhole ∧ hi.WrittenWhole) ∧ s.types = some (.one .integer) ∨
      (¬ lo.WrittenWhole ∧ ¬ hi.WrittenWhole) ∧ s.types ≠ some (.one .integer)) :
    s.TightBounds ns lo hi := by
  have least_eq : least.position = lo.position := Option.some.inj
    ((spread.safe least h.least_mem).position_toDouble.symm.trans hlo)
  have greatest_eq : greatest.position = hi.position := Option.some.inj
    ((spread.safe greatest h.greatest_mem).position_toDouble.symm.trans hhi)
  have between : ∀ n ∈ ns, lo.position ≤ n.position ∧ n.position ≤ hi.position := by
    intro n hn
    rw [← least_eq, ← greatest_eq]
    exact h.position_between spread.safe hn
  have less : lo.position < hi.position := by
    obtain ⟨m, hm, n, hn, ne⟩ := spread.differ
    have := between m hm
    have := between n hn
    omega
  refine ⟨minimum, maximum, ⟨?_, ?_⟩, ⟨?_, ?_⟩, less, ?_, ?_⟩
  · exact List.mem_map.2 ⟨least, h.least_mem, least_eq⟩
  · rintro p hp
    obtain ⟨n, hn, rfl⟩ := List.mem_map.1 hp
    exact (between n hn).1
  · exact List.mem_map.2 ⟨greatest, h.greatest_mem, greatest_eq⟩
  · rintro p hp
    obtain ⟨n, hn, rfl⟩ := List.mem_map.1 hp
    exact (between n hn).2
  · rcases whole with ⟨⟨hl, -⟩, ht⟩ | ⟨⟨hl, -⟩, ht⟩
    · exact iff_of_true hl ht
    · exact iff_of_false hl ht
  · rcases whole with ⟨⟨-, hh⟩, ht⟩ | ⟨⟨-, hh⟩, ht⟩
    · exact iff_of_true hh ht
    · exact iff_of_false hh ht

/-- The bounds of integers that differ and are safe are integers where the ends are. -/
theorem Number.Ends.exists_intBounds? (integral : ∀ n ∈ ns, n.isIntegral = true)
    {options : RenderOptions} (asked : options.bounds = true) (spread : Number.Spread ns) :
    ∃ lo hi, Interval.intBounds? ⟨least.toDouble, greatest.toDouble⟩ options = some (lo, hi) ∧
      least.toDouble.position = some lo.position ∧ greatest.toDouble.position = some hi.position ∧
      lo.WrittenWhole ∧ hi.WrittenWhole := by
  have bounding := h.valid.isBounding_iff.2 ((h.restricts_iff asked).2 spread)
  have safe := spread.safe least h.least_mem
  have safe' := spread.safe greatest h.greatest_mem
  obtain ⟨lo, hl, hpl⟩ := Double.exists_ofInt?_wholePart
    (safe.isWhole_toDouble (integral least h.least_mem)) (Number.isSafe_toDouble_iff.2 safe)
  obtain ⟨hi, hh, hph⟩ := Double.exists_ofInt?_wholePart
    (safe'.isWhole_toDouble (integral greatest h.greatest_mem)) (Number.isSafe_toDouble_iff.2 safe')
  refine ⟨lo, hi, ?_, hpl, hph, writtenWhole_of_ofInt? hl, writtenWhole_of_ofInt? hh⟩
  rw [Interval.intBounds?, if_pos bounding, hl, hh]
  rfl

/-- The bounds of other numbers that differ and are safe are doubles where the ends are. -/
theorem Number.Ends.exists_floatBounds? {options : RenderOptions} (asked : options.bounds = true)
    (spread : Number.Spread ns) :
    ∃ lo hi, Interval.floatBounds? ⟨least.toDouble, greatest.toDouble⟩ options = some (lo, hi) ∧
      least.toDouble.position = some lo.position ∧ greatest.toDouble.position = some hi.position ∧
      ¬ lo.WrittenWhole ∧ ¬ hi.WrittenWhole := by
  have bounding := h.valid.isBounding_iff.2 ((h.restricts_iff asked).2 spread)
  obtain ⟨lo, hl, hpl⟩ := Double.exists_ofDouble? least.isFinite_toDouble
  obtain ⟨hi, hh, hph⟩ := Double.exists_ofDouble? greatest.isFinite_toDouble
  refine ⟨lo, hi, ?_, hpl, hph, not_writtenWhole_of_ofDouble? hl, not_writtenWhole_of_ofDouble? hh⟩
  rw [Interval.floatBounds?, if_pos bounding, hl, hh]
  rfl

end

namespace Shape

/-- The draft that a document names does not touch its other keywords. -/
theorem toDocument_keywords (options : RenderOptions) (t : Shape) :
    (t.toDocument options).minimum = (t.toSchema options).minimum ∧
      (t.toDocument options).maximum = (t.toSchema options).maximum ∧
      (t.toDocument options).types = (t.toSchema options).types := by
  unfold toDocument
  split <;> exact ⟨rfl, rfl, rfl⟩

/-- Numbers get bounds in the schema, if bounds are asked for, exactly if two of them differ and all
are safe, and then the bounds are the least and the greatest of them. -/
theorem toDocument_bounds_exact (d : Detectors) {options : RenderOptions}
    (asked : options.bounds = true) {ns : List Number} (nonempty : ns ≠ []) :
    let s := (absorbAll d (ns.map .number) unknown).toDocument options
    (Number.Spread ns → ∃ lo hi, s.TightBounds ns lo hi) ∧
      (¬ Number.Spread ns → s.minimum = none ∧ s.maximum = none) := by
  rw [absorbAll_numbers d nonempty]
  intro s
  obtain ⟨least, greatest, ends, span⟩ := Number.exists_ends nonempty
  have keywords := toDocument_keywords options (ofNumbers ns)
  have minimum : s.minimum = _ := keywords.1
  have maximum : s.maximum = _ := keywords.2.1
  have types : s.types = _ := keywords.2.2
  have unbounded : ¬ Number.Spread ns →
      Interval.isBounding ⟨least.toDouble, greatest.toDouble⟩ options = false := by
    intro flat
    rw [← Bool.not_eq_true, ends.valid.isBounding_iff, ends.restricts_iff asked]
    exact flat
  rw [ofNumbers, span] at minimum maximum types
  by_cases integral : ns.all Number.isIntegral = true
  · rw [if_pos integral, toSchema] at minimum maximum types
    refine ⟨fun spread => ?_, fun flat => ?_⟩
    · obtain ⟨lo, hi, bounds, hlo, hhi, whole⟩ :=
        ends.exists_intBounds? (List.all_eq_true.1 integral) asked spread
      rw [bounds] at minimum maximum types
      exact ⟨lo, hi, Schema.tightBounds_of_ends ends spread minimum maximum hlo hhi
        (.inl ⟨whole, types⟩)⟩
    · rw [Interval.intBounds?, unbounded flat] at minimum maximum
      exact ⟨minimum, maximum⟩
  · rw [if_neg integral, toSchema] at minimum maximum types
    refine ⟨fun spread => ?_, fun flat => ?_⟩
    · obtain ⟨lo, hi, bounds, hlo, hhi, fraction⟩ := ends.exists_floatBounds? asked spread
      rw [bounds] at minimum maximum types
      have number : s.types ≠ some (.one .integer) := by
        rw [types]
        show some (TypeSet.one .number) ≠ some (.one .integer)
        decide
      exact ⟨lo, hi, Schema.tightBounds_of_ends ends spread minimum maximum hlo hhi
        (.inr ⟨fraction, number⟩)⟩
    · rw [Interval.floatBounds?, unbounded flat] at minimum maximum
      exact ⟨minimum, maximum⟩

/-- The greatest safe integer and the least one. -/
theorem toDocument_bounds_exact_safe :
    let ns : List Number :=
      [.integer 0x1fffffffffffff (by decide), .integer (-0x1fffffffffffff) (by decide)]
    let options : RenderOptions := ⟨true, true⟩
    options.bounds = true ∧ ns ≠ [] ∧ Number.Spread ns ∧
      ∃ lo hi,
        ((absorbAll .none (ns.map .number) unknown).toDocument options).TightBounds ns lo hi := by
  intro ns options
  have nonempty : ns ≠ [] := List.cons_ne_nil _ _
  have spread : Number.Spread ns := by
    refine ⟨⟨_, List.mem_cons_self, _, List.mem_cons_of_mem _ List.mem_cons_self, ?_⟩, fun n hn => ?_⟩
    · have := Double.unitsPerOne_pos
      simp only [Number.position]
      omega
    · have whole {k : Int} (h : k.natAbs ≤ Double.maxSafe) {fits} :
          (Number.integer k fits).IsSafe := by
        rw [Number.IsSafe, Number.position, Int.natAbs_mul, Int.natAbs_natCast]
        exact Nat.mul_le_mul_right _ h
      rcases List.mem_cons.1 hn with rfl | hn
      · exact whole (by decide)
      · rw [List.mem_singleton.1 hn]
        exact whole (by decide)
  exact ⟨rfl, nonempty, spread, (toDocument_bounds_exact .none rfl nonempty).1 spread⟩

end Shape

end JsonShape
