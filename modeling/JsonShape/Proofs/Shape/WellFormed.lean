import Mathlib.Data.String.Basic
import JsonShape.Proofs.Entries.Lookup
import JsonShape.Proofs.Interval
import JsonShape.Shape.Invariant

/-!
# Well-formed shapes, as predicates

`Shape.Canonical`: the keys of every object shape are in order, none twice in a group. It holds of
every shape that a survey or a snapshot holds, since both keep keys in order.

`Shape.Sound`: the rules that `Shape.check` looks for, said of the whole tree. `check` finds no
breach exactly of the shapes that keep them (`breachAt_eq_none_iff`).

`Shape.induct` is the induction by which most is proved about shapes.
-/

set_option autoImplicit false

namespace JsonShape

namespace Shape

/-! ## Induction -/

section
variable {motive : Shape → Prop} (unknown : motive unknown) (boolean : motive boolean)
  (int : ∀ range, motive (int range)) (float : ∀ range, motive (float range))
  (string : ∀ format, motive (string format))
  (array : ∀ items, motive items → motive (array items))
  (object : ∀ required optional, (∀ e ∈ required, motive e.2) → (∀ e ∈ optional, motive e.2) →
    motive (object ⟨required, optional⟩))
  (nullable : ∀ inner, motive inner → motive (nullable inner))
  (anyOf : ∀ alternatives, (∀ t ∈ alternatives, motive t) → motive (anyOf alternatives))
include unknown boolean int float string array object nullable anyOf

/-- Induction on a shape: all shapes of keys, and all alternatives, at once. -/
@[elab_as_elim]
theorem induct : ∀ t : Shape, motive t
  | .unknown => unknown
  | .boolean => boolean
  | .int range => int range
  | .float range => float range
  | .string format => string format
  | .array items => array items (induct items)
  | .object ⟨required, optional⟩ =>
    object required optional (fun e _ => induct e.2) fun e _ => induct e.2
  | .nullable inner => nullable inner (induct inner)
  | .anyOf alternatives => anyOf alternatives fun t _ => induct t
termination_by t => sizeOf t
decreasing_by
  · decreasing_tactic
  · have := Entries.sizeOf_lt_of_mem ‹_›
    simp only [Shape.object.sizeOf_spec, Fields.mk.sizeOf_spec]
    omega
  · have := Entries.sizeOf_lt_of_mem ‹_›
    simp only [Shape.object.sizeOf_spec, Fields.mk.sizeOf_spec]
    omega
  · decreasing_tactic
  · decreasing_tactic

end

/-! ## Keys in order -/

mutual

/-- Both groups of keys of every object are in order. -/
def Canonical : Shape → Prop
  | array items => Canonical items
  | object ⟨required, optional⟩ =>
    (Entries.Ordered required ∧ Entries.Ordered optional) ∧
      CanonicalProperties required ∧ CanonicalProperties optional
  | nullable inner => Canonical inner
  | anyOf alternatives => CanonicalAlternatives alternatives
  | _ => True

/-- `Canonical`, for the shape of each key. -/
def CanonicalProperties : List (String × Shape) → Prop
  | [] => True
  | (_, t) :: rest => Canonical t ∧ CanonicalProperties rest

/-- `Canonical`, one by one. -/
def CanonicalAlternatives : List Shape → Prop
  | [] => True
  | t :: rest => Canonical t ∧ CanonicalAlternatives rest

end

theorem canonicalProperties_iff {es : Entries Shape} :
    CanonicalProperties es ↔ ∀ e ∈ es, e.2.Canonical := by
  induction es with
  | nil => simp [CanonicalProperties]
  | cons e es ih => simp [CanonicalProperties, ih]

theorem canonicalAlternatives_iff {ts : List Shape} :
    CanonicalAlternatives ts ↔ ∀ t ∈ ts, t.Canonical := by
  induction ts with
  | nil => simp [CanonicalAlternatives]
  | cons t ts ih => simp [CanonicalAlternatives, ih]

/-! ## The rules -/

mutual

/-- The rules for shapes hold everywhere in it. -/
def Sound : Shape → Prop
  | unknown | boolean | string _ => True
  | int range | float range => range.Valid
  | array items => Sound items
  | object ⟨required, optional⟩ =>
    (∀ key ∈ Entries.keys required, key ∉ Entries.keys optional) ∧
      SoundProperties required ∧ SoundProperties optional
  | nullable inner => inner.isNullable = false ∧ Sound inner
  | anyOf alternatives =>
    2 ≤ alternatives.length ∧ (alternatives.map slot?).Nodup ∧ SoundAlternatives alternatives

/-- The shapes of keys are sound, and none is unknown. -/
def SoundProperties : List (String × Shape) → Prop
  | [] => True
  | (_, t) :: rest => (t.isUnknown = false ∧ Sound t) ∧ SoundProperties rest

/-- Alternatives are sound, and each is of one slot. -/
def SoundAlternatives : List Shape → Prop
  | [] => True
  | t :: rest => (t.slot?.isSome = true ∧ Sound t) ∧ SoundAlternatives rest

end

theorem soundProperties_iff {es : Entries Shape} :
    SoundProperties es ↔ ∀ e ∈ es, e.2.isUnknown = false ∧ e.2.Sound := by
  induction es with
  | nil => simp [SoundProperties]
  | cons e es ih => simp [SoundProperties, ih]

theorem soundAlternatives_iff {ts : List Shape} :
    SoundAlternatives ts ↔ ∀ t ∈ ts, t.slot?.isSome = true ∧ t.Sound := by
  induction ts with
  | nil => simp [SoundAlternatives]
  | cons t ts ih => simp [SoundAlternatives, ih]

/-! ## The check -/

theorem rangeFault_eq_none_iff {range : Interval} : rangeFault range = none ↔ range.Valid := by
  rw [Interval.valid_iff, rangeFault]
  cases range.isEmpty || !range.isFinite <;> simp

theorem alternativeFault_eq_none_iff {seen : List (Option Slot)} {t : Shape} :
    alternativeFault seen t = none ↔ t.slot?.isSome = true ∧ t.slot? ∉ seen := by
  cases t <;> simp [alternativeFault, slot?]

theorem find?_shared_eq_none_iff {required optional : Entries Shape} :
    ((Entries.keys required).find? fun key => Entries.has key optional) = none ↔
      ∀ key ∈ Entries.keys required, key ∉ Entries.keys optional := by
  simp only [List.find?_eq_none, Bool.not_eq_true, Entries.has_eq_false_iff]

mutual

/-- No breach is found in a shape, whatever the path to it, exactly if it is sound. -/
theorem breachAt_eq_none_iff (path : String) : ∀ t : Shape, breachAt path t = none ↔ Sound t
  | unknown | boolean | string _ => by simp [breachAt, Sound]
  | int range | float range => by
    rw [breachAt, Option.map_eq_none_iff, rangeFault_eq_none_iff, Sound]
  | array items => by rw [breachAt, breachAt_eq_none_iff _ items, Sound]
  | object ⟨required, optional⟩ => by
    rw [breachAt, Sound, ← find?_shared_eq_none_iff]
    split
    · next key found => simp [found]
    · next none =>
      rw [Option.or_eq_none_iff, breachOfProperties_eq_none_iff path required,
        breachOfProperties_eq_none_iff path optional]
      simp [none]
  | nullable inner => by
    rw [breachAt, Sound]
    split
    · next h => simp [h]
    · next h => rw [breachAt_eq_none_iff path inner]; simp [h]
  | anyOf alternatives => by
    rw [breachAt, Sound]
    split
    · next h => simp only [reduceCtorEq, false_iff]; omega
    · next h =>
      rw [breachOfAlternatives_eq_none_iff path 0 [] alternatives]
      simp only [List.not_mem_nil, not_false_eq_true, implies_true, and_true]
      constructor
      · rintro ⟨hs, hn⟩; exact ⟨by omega, hn, hs⟩
      · rintro ⟨-, hn, hs⟩; exact ⟨hs, hn⟩

theorem breachOfProperties_eq_none_iff (path : String) :
    ∀ es : List (String × Shape), breachOfProperties path es = none ↔ SoundProperties es
  | [] => by simp [breachOfProperties, SoundProperties]
  | (key, t) :: rest => by
    rw [breachOfProperties, SoundProperties, Option.or_eq_none_iff,
      breachOfProperties_eq_none_iff path rest]
    split
    · next h => simp [h]
    · next h => rw [breachAt_eq_none_iff _ t]; simp [h]

/-- After alternatives of the slots `seen`, the others are of new slots. -/
theorem breachOfAlternatives_eq_none_iff (path : String) (index : Nat) (seen : List (Option Slot)) :
    ∀ ts : List Shape, breachOfAlternatives path index seen ts = none ↔
      SoundAlternatives ts ∧ (ts.map slot?).Nodup ∧ ∀ s ∈ ts.map slot?, s ∉ seen
  | [] => by simp [breachOfAlternatives, SoundAlternatives]
  | t :: rest => by
    rw [breachOfAlternatives, SoundAlternatives]
    split
    · next fault found =>
      simp only [reduceCtorEq, List.map_cons, List.mem_cons, forall_eq_or_imp, false_iff]
      rintro ⟨⟨⟨hs, -⟩, -⟩, -, hn, -⟩
      rw [alternativeFault_eq_none_iff.2 ⟨hs, hn⟩] at found
      cases found
    · next none =>
      obtain ⟨hs, hn⟩ := alternativeFault_eq_none_iff.1 none
      rw [Option.or_eq_none_iff, breachAt_eq_none_iff _ t,
        breachOfAlternatives_eq_none_iff path (index + 1) (t.slot? :: seen) rest]
      simp only [List.map_cons, List.nodup_cons, List.mem_cons, forall_eq_or_imp, not_or]
      constructor
      · rintro ⟨ht, hrest, hnodup, hnew⟩
        exact ⟨⟨⟨hs, ht⟩, hrest⟩, ⟨fun hm => (hnew _ hm).1 rfl, hnodup⟩, hn,
          fun s hm => (hnew s hm).2⟩
      · rintro ⟨⟨⟨-, ht⟩, hrest⟩, ⟨hnot, hnodup⟩, -, hnew⟩
        exact ⟨ht, hrest, hnodup, fun s hm => ⟨fun he => hnot (he ▸ hm), hnew s hm⟩⟩

end

theorem sound_of_check {t : Shape} (h : t.check = none) : t.Sound :=
  (breachAt_eq_none_iff "$" t).1 h

theorem check_of_sound {t : Shape} (h : t.Sound) : t.check = none :=
  (breachAt_eq_none_iff "$" t).2 h

end Shape

end JsonShape
