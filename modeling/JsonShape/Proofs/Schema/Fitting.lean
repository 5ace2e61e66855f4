import Mathlib.Data.String.Basic
import JsonShape.Proofs.Schema.Acceptance

/-!
# The schema of a shape says what the shape says

`Shape.Fits formats options t v`: the value `v` is of the kind that the shape `t` describes, said on
the tree alone: which types of values, which keys, and for numbers the range where the options ask
for it (`Interval.Restricts`). It is what a reader of the schema may rely on: unlike under
`Shape.Covers`, keys that are not known do not matter, and what a format name stands for is a
parameter.

`toDocument_accepts_iff_fits`: the schema accepts the values that fit and no others. The bounds of
integers are written without a fraction, so the ends of their ranges must have none
(`Shape.WholeEnds`). The induction is on the shape; that a node made nullable accepts null and
nothing else that is new is `accepts_nullable_iff`.
-/

set_option autoImplicit false

namespace JsonShape

/-! ## Ranges that restrict -/

namespace Interval

/-- What it takes for a range to restrict numbers: it is asked for, the ends differ, and both lie
where every whole number is a double of its own. -/
structure Restricts (range : Interval) (options : RenderOptions) : Prop where
  asked : options.bounds = true
  differ : range.lo.eqv range.hi = false
  safe : range.isSafe = true

/-- A number lies between the ends, compared without rounding. -/
def Holds (range : Interval) (n : Number) : Prop :=
  ∃ p q, range.lo.position = some p ∧ range.hi.position = some q ∧
    p ≤ n.position ∧ n.position ≤ q

end Interval

/-! ## Values that fit -/

namespace Shape

section
variable (formats : String → String → Bool) (options : RenderOptions)

mutual

/-- A value is one of those that a shape describes. -/
def Fits : Shape → Json → Prop
  | unknown, _ => False
  | boolean, v => ∃ b, v = .bool b
  | int range, v => ∃ n, v = .number n ∧ (∃ k : Int, n.position = k * Double.unitsPerOne) ∧
    (range.Restricts options → range.Holds n)
  | float range, v => ∃ n, v = .number n ∧ (range.Restricts options → range.Holds n)
  | string format, v => ∃ s, v = .string s ∧
    ∀ f ∈ format, ∀ name ∈ f.schemaName?, formats name s = true
  | array items, v => ∃ vs, v = .array vs ∧ ∀ w ∈ vs, Fits items w
  | object ⟨required, optional⟩, v => ∃ members, v = .object members ∧
    (∀ key ∈ Entries.keys required, Entries.has key members = true) ∧
      FitsMembers required members ∧ FitsMembers optional members
  | nullable inner, v => v = .null ∨ Fits inner v
  | anyOf alternatives, v => FitsSome alternatives v

/-- The values of the keys that are there fit what is known about them. -/
def FitsMembers : List (String × Shape) → List (String × Json) → Prop
  | [], _ => True
  | (key, t) :: rest, members =>
    (∀ w ∈ Entries.get? key members, Fits t w) ∧ FitsMembers rest members

/-- A value fits some alternative. -/
def FitsSome : List Shape → Json → Prop
  | [], _ => False
  | t :: rest, v => Fits t v ∨ FitsSome rest v

end

end

mutual

/-- The ranges of integers have ends without a fraction. -/
def WholeEnds : Shape → Prop
  | int range => range.lo.isWhole = true ∧ range.hi.isWhole = true
  | unknown | boolean | float _ | string _ => True
  | array items => WholeEnds items
  | object ⟨required, optional⟩ => WholeEndsProperties required ∧ WholeEndsProperties optional
  | nullable inner => WholeEnds inner
  | anyOf alternatives => WholeEndsAlternatives alternatives

/-- `WholeEnds`, for the shape of each key. -/
def WholeEndsProperties : List (String × Shape) → Prop
  | [] => True
  | (_, t) :: rest => WholeEnds t ∧ WholeEndsProperties rest

/-- `WholeEnds`, one by one. -/
def WholeEndsAlternatives : List Shape → Prop
  | [] => True
  | t :: rest => WholeEnds t ∧ WholeEndsAlternatives rest

end

variable {formats : String → String → Bool} {options : RenderOptions}

theorem fitsMembers_iff {es : List (String × Shape)} {members : List (String × Json)} :
    FitsMembers formats options es members ↔
      ∀ e ∈ es, ∀ w ∈ Entries.get? e.1 members, Fits formats options e.2 w := by
  induction es with
  | nil => simp [FitsMembers]
  | cons e es ih => rw [FitsMembers, ih, List.forall_mem_cons]

theorem fitsSome_iff {ts : List Shape} {v : Json} :
    FitsSome formats options ts v ↔ ∃ t ∈ ts, Fits formats options t v := by
  induction ts with
  | nil => simp [FitsSome]
  | cons t ts ih => simp [FitsSome, ih]

theorem wholeEndsProperties_iff {es : List (String × Shape)} :
    WholeEndsProperties es ↔ ∀ e ∈ es, e.2.WholeEnds := by
  induction es with
  | nil => simp [WholeEndsProperties]
  | cons e es ih => rw [WholeEndsProperties, ih, List.forall_mem_cons]

theorem wholeEndsAlternatives_iff {ts : List Shape} :
    WholeEndsAlternatives ts ↔ ∀ t ∈ ts, t.WholeEnds := by
  induction ts with
  | nil => simp [WholeEndsAlternatives]
  | cons t ts ih => simp [WholeEndsAlternatives, ih]

end Shape

/-! ## Bounds -/

namespace Double

/-- A safe double without a fraction is an integer of 64 bits. -/
theorem exists_ofInt?_wholePart {x : Double} (hw : x.isWhole = true) (hs : x.isSafe = true) :
    ∃ n, Number.ofInt? x.wholePart = some n ∧ x.position = some n.position := by
  obtain ⟨negative, units, fits, rfl⟩ := eq_finite_of_isFinite (isFinite_of_isSafe hs)
  have divides : units / unitsPerOne * unitsPerOne = units := by
    simp only [isWhole, beq_iff_eq] at hw
    exact Nat.div_mul_cancel (Nat.dvd_of_mod_eq_zero hw)
  have small : units / unitsPerOne ≤ maxSafe := by
    have := natAbs_position_le_of_isSafe (x := .finite negative units fits) rfl hs
    rw [natAbs_signed, Nat.mul_comm] at this
    exact Nat.div_le_of_le_mul this
  have word : -0x8000000000000000 ≤ signed negative (units / unitsPerOne) ∧
      signed negative (units / unitsPerOne) < 0x10000000000000000 := by
    have := natAbs_signed negative (units / unitsPerOne)
    have := maxSafe_lt
    omega
  refine ⟨.integer _ word, dif_pos word, ?_⟩
  rw [Number.position, ← signed_mul, divides, position]

theorem exists_ofDouble? {x : Double} (h : x.isFinite = true) :
    ∃ n, Number.ofDouble? x = some n ∧ x.position = some n.position := by
  refine ⟨.double x h, dif_pos h, ?_⟩
  obtain ⟨p, hp⟩ := exists_position (isNaN_of_isFinite h)
  rw [Number.position, hp, Option.getD_some]

end Double

namespace Interval

variable {range : Interval} {options : RenderOptions} {n : Number}

theorem Valid.isBounding_iff (h : range.Valid) :
    range.isBounding options = true ↔ range.Restricts options := by
  have nonempty : range.isEmpty = false := (Bool.or_eq_false_iff.1 (valid_iff.1 h)).1
  simp only [isBounding, isPoint, nonempty, Bool.not_false, Bool.true_and, Bool.and_true,
    Bool.and_eq_true, Bool.not_eq_true']
  exact ⟨fun h => ⟨h.1.1, h.1.2, h.2⟩, fun h => ⟨⟨h.asked, h.differ⟩, h.safe⟩⟩

/-- A range holds what lies between bounds that stand where its ends are. -/
theorem holds_iff {lo hi : Number} (hlo : range.lo.position = some lo.position)
    (hhi : range.hi.position = some hi.position) :
    range.Holds n ↔ lo.position ≤ n.position ∧ n.position ≤ hi.position := by
  constructor
  · rintro ⟨p, q, hp, hq, h⟩
    obtain rfl : lo.position = p := Option.some.inj (hlo.symm.trans hp)
    obtain rfl : hi.position = q := Option.some.inj (hhi.symm.trans hq)
    exact h
  · intro h
    exact ⟨_, _, hlo, hhi, h⟩

/-- Bounds that are there just if the range restricts, and stand where its ends are, say of a number
what the range does. -/
theorem forall_bounds_iff (h : range.Valid) {bounds : Option (Number × Number)}
    (absent : range.isBounding options = false → bounds = none)
    (present : range.isBounding options = true → ∃ lo hi, bounds = some (lo, hi) ∧
      range.lo.position = some lo.position ∧ range.hi.position = some hi.position) :
    (∀ b ∈ bounds, b.1.position ≤ n.position ∧ n.position ≤ b.2.position) ↔
      (range.Restricts options → range.Holds n) := by
  rw [← h.isBounding_iff]
  cases hb : range.isBounding options with
  | false => simp [absent hb]
  | true =>
    obtain ⟨lo, hi, rfl, hlo, hhi⟩ := present hb
    rw [holds_iff hlo hhi]
    simp

theorem forall_intBounds?_iff (h : range.Valid) (hlo : range.lo.isWhole = true)
    (hhi : range.hi.isWhole = true) :
    (∀ b ∈ range.intBounds? options, b.1.position ≤ n.position ∧ n.position ≤ b.2.position) ↔
      (range.Restricts options → range.Holds n) := by
  refine forall_bounds_iff h (fun hb => ?_) (fun hb => ?_)
  · rw [intBounds?, hb]
    rfl
  · have safe := (h.isBounding_iff.1 hb).safe
    rw [isSafe, Bool.and_eq_true] at safe
    obtain ⟨lo, hl, hpl⟩ := Double.exists_ofInt?_wholePart hlo safe.1
    obtain ⟨hi, hh, hph⟩ := Double.exists_ofInt?_wholePart hhi safe.2
    refine ⟨lo, hi, ?_, hpl, hph⟩
    rw [intBounds?, if_pos hb, hl, hh]
    rfl

theorem forall_floatBounds?_iff (h : range.Valid) :
    (∀ b ∈ range.floatBounds? options, b.1.position ≤ n.position ∧ n.position ≤ b.2.position) ↔
      (range.Restricts options → range.Holds n) := by
  refine forall_bounds_iff h (fun hb => ?_) (fun hb => ?_)
  · rw [floatBounds?, hb]
    rfl
  · obtain ⟨lo, hl, hpl⟩ := Double.exists_ofDouble? h.lo_finite
    obtain ⟨hi, hh, hph⟩ := Double.exists_ofDouble? h.hi_finite
    refine ⟨lo, hi, ?_, hpl, hph⟩
    rw [floatBounds?, if_pos hb, hl, hh]
    rfl

end Interval

/-! ## Acceptance -/

namespace Shape

variable {formats : String → String → Bool} {options : RenderOptions}

theorem accepts_int_iff {range : Interval} (h : range.Valid) (hlo : range.lo.isWhole = true)
    (hhi : range.hi.isWhole = true) {v : Json} :
    ((int range).toSchema options).accepts formats v = true ↔
      Fits formats options (int range) v := by
  rw [toSchema, Schema.accepts_withBounds?_iff (.inl rfl), Fits]
  simp only [Interval.forall_intBounds?_iff h hlo hhi, TypeName.admits_integer_iff,
    Json.number.injEq, exists_eq_left']

theorem accepts_float_iff {range : Interval} (h : range.Valid) {v : Json} :
    ((float range).toSchema options).accepts formats v = true ↔
      Fits formats options (float range) v := by
  rw [toSchema, Schema.accepts_withBounds?_iff (.inr rfl), Fits]
  simp only [Interval.forall_floatBounds?_iff h, TypeName.admits_number_iff, Json.number.injEq,
    exists_eq', true_and]

theorem accepts_string_iff {format : Option TextFormat} {v : Json} :
    ((string format).toSchema options).accepts formats v = true ↔
      Fits formats options (string format) v := by
  rw [toSchema, Schema.accepts_string_iff, Fits]
  cases format <;> simp

/-- The schema of a well-formed shape accepts the values that fit the shape, and no others. -/
theorem accepts_toSchema_iff {t : Shape} (ht : t.WellFormed) (hw : t.WholeEnds) (v : Json) :
    (t.toSchema options).accepts formats v = true ↔ Fits formats options t v := by
  induction t using Shape.induct generalizing v with
  | unknown => rw [toSchema, Schema.accepts_nothing, Fits, Bool.false_eq_true]
  | boolean => rw [toSchema, Schema.accepts_ofType, TypeName.admits_boolean_iff, Fits]
  | int range => exact accepts_int_iff (wellFormed_int.1 ht) hw.1 hw.2
  | float range => exact accepts_float_iff (wellFormed_float.1 ht)
  | string format => exact accepts_string_iff
  | array s ih =>
    have items := ih (wellFormed_array.1 ht) hw
    rw [toSchema, Fits]
    split
    · next hu =>
      -- nothing fits an unknown item, so only the array without items is left
      obtain rfl : s = unknown := by cases s <;> first | rfl | cases hu
      rw [Schema.accepts_emptyArray_iff]
      constructor
      · rintro rfl
        exact ⟨[], rfl, fun w hm => absurd hm List.not_mem_nil⟩
      · rintro ⟨vs, rfl, h⟩
        simp only [Fits] at h
        rw [List.eq_nil_iff_forall_not_mem.2 h]
    · simp only [Schema.accepts_array_iff, items]
  | object required optional ihr iho =>
    obtain ⟨proper, hf⟩ := wellFormed_object.1 ht
    have known : ∀ key t, Fields.get? ⟨required, optional⟩ key = some t → ∀ w,
        (t.toSchema options).accepts formats w = true ↔ Fits formats options t w := by
      intro key t hg w
      rcases Fields.mem_of_get? hg with he | he
      · exact ihr _ he (hf _ _ hg).2 (wholeEndsProperties_iff.1 hw.1 _ he) w
      · exact iho _ he (hf _ _ hg).2 (wholeEndsProperties_iff.1 hw.2 _ he) w
    rw [toSchema, Schema.accepts_object_iff, Fits]
    refine exists_congr fun members => and_congr_right fun _ => and_congr_right fun _ => ?_
    -- both sides are about every key that is known, whichever group it is in
    rw [fitsMembers_iff, fitsMembers_iff, ← Fields.forall_get?_iff proper
        fun key t => ∀ w ∈ Entries.get? key members, Fits formats options t w,
      forall_properties_iff options proper
        fun key s => ∀ w ∈ Entries.get? key members, s.accepts formats w = true]
    exact forall₃_congr fun key t hg => forall₂_congr fun w _ => known key t hg w
  | nullable t ih =>
    obtain ⟨hn, inner⟩ := wellFormed_nullable.1 ht
    rw [toSchema, Fits]
    split
    · next hu =>
      obtain rfl : t = unknown := by cases t <;> first | rfl | cases hu
      rw [Schema.accepts_ofType, TypeName.admits_null_iff, Fits, or_false]
    · next hu =>
      rw [accepts_nullable_iff options inner.sound (Bool.not_eq_true _ ▸ hu) hn, ih inner hw]
  | anyOf ts ih =>
    obtain ⟨many, -, each⟩ := wellFormed_anyOf.1 ht
    have hwt := wholeEndsAlternatives_iff.1 hw
    rw [toSchema_anyOf options many, Schema.accepts_alternatives, Schema.someAccepts_iff, Fits,
      fitsSome_iff]
    constructor
    · rintro ⟨s, hs, ha⟩
      obtain ⟨t, hm, rfl⟩ := List.mem_map.1 hs
      exact ⟨t, hm, (ih t hm (each t hm).2 (hwt t hm) v).1 ha⟩
    · rintro ⟨t, hm, hfits⟩
      exact ⟨_, List.mem_map_of_mem hm, (ih t hm (each t hm).2 (hwt t hm) v).2 hfits⟩

/-- Whatever the options are, and whatever predicates the names of formats stand for, a document says
of every value what the shape does. -/
theorem toDocument_accepts_iff_fits {t : Shape} (ordered : t.Canonical) (checked : t.check = none)
    (whole : t.WholeEnds) (options : RenderOptions) (formats : String → String → Bool) (v : Json) :
    (t.toDocument options).accepts formats v = true ↔ Fits formats options t v := by
  have node : (t.toSchema options).accepts formats v = true ↔ Fits formats options t v :=
    accepts_toSchema_iff ⟨ordered, sound_of_check checked⟩ whole v
  unfold toDocument
  split
  · rw [Schema.accepts_toDocument, node]
  · exact node

/-- With bounds, the empty array is accepted beside null and integers up to ten, and eleven is not. -/
theorem toDocument_accepts_iff_fits_nullable :
    (nullable (anyOf [int ⟨.ofInt 0, .ofInt 10⟩, array unknown])).Canonical ∧
    (nullable (anyOf [int ⟨.ofInt 0, .ofInt 10⟩, array unknown])).check = none ∧
    (nullable (anyOf [int ⟨.ofInt 0, .ofInt 10⟩, array unknown])).WholeEnds ∧
    ((nullable (anyOf [int ⟨.ofInt 0, .ofInt 10⟩, array unknown])).toDocument
      ⟨true, true⟩).accepts (fun _ _ => false) (.array []) = true ∧
    ((nullable (anyOf [int ⟨.ofInt 0, .ofInt 10⟩, array unknown])).toDocument
      ⟨true, true⟩).accepts (fun _ _ => false) (.number (.integer 11 (by decide))) = false := by
  have canonical : (nullable (anyOf [int ⟨.ofInt 0, .ofInt 10⟩, array unknown])).Canonical := by
    simp [Shape.Canonical, CanonicalAlternatives]
  have valid : Interval.Valid ⟨.ofInt 0, .ofInt 10⟩ :=
    ⟨by decide +kernel, by decide +kernel, by decide +kernel⟩
  have checked : (nullable (anyOf [int ⟨.ofInt 0, .ofInt 10⟩, array unknown])).check = none :=
    check_of_sound (by simp [Sound, SoundAlternatives, isNullable, slot?, valid])
  have whole : (nullable (anyOf [int ⟨.ofInt 0, .ofInt 10⟩, array unknown])).WholeEnds :=
    ⟨⟨by decide +kernel, by decide +kernel⟩, trivial, trivial⟩
  have fits := toDocument_accepts_iff_fits canonical checked whole ⟨true, true⟩ fun _ _ => false
  refine ⟨canonical, checked, whole, (fits _).2 ?_, Bool.eq_false_iff.2 fun h => ?_⟩
  · simp [Fits, FitsSome]
  · have between := (fits _).1 h
    have restricts : Interval.Restricts ⟨.ofInt 0, .ofInt 10⟩ ⟨true, true⟩ :=
      ⟨rfl, by decide +kernel, by decide +kernel⟩
    have ten : (Double.ofInt 10).position = some (10 * (Double.unitsPerOne : Int)) :=
      Double.position_ofInt (by decide)
    simp only [Fits, FitsSome, reduceCtorEq, false_or, false_and, exists_false, or_false,
      Json.number.injEq, exists_eq_left'] at between
    obtain ⟨p, q, -, hq, -, above⟩ := between.2 restricts
    simp only [ten, Option.some.injEq] at hq
    have := Double.unitsPerOne_pos
    rw [Number.position, ← hq] at above
    omega

end Shape

end JsonShape
