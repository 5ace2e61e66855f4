import Mathlib.Data.String.Basic
import JsonShape.Proofs.Shape.Generality

/-!
# Taking in a value joins

A shape with a value taken in is below another shape exactly if the shape is, and the shape of the value
alone is (`below_absorb_iff`). Since every shape is below itself, it follows that what comes out is above
both, and below all that is above both (`below_absorb_least`).

The value changes the shape of its own slot only, so the equivalence is one about what grows there, for
each kind of value, and by induction for items and members.
-/

set_option autoImplicit false

namespace JsonShape

namespace Shape

/-! ## What grows in a slot -/

theorem below_growNumber_iff (n : Number) {p q : Shape} (hp : p.WellFormed)
    (hps : p.slot? = some .number) (hqs : q.slot? = some .number) :
    Below (growNumber n (some p)) q ↔ Below p q ∧ Below (growNumber n none) q := by
  have hn := n.isFinite_toDouble
  cases p <;> cases hps
  case int r =>
    have widened := fun j => (wellFormed_int.1 hp).inside_extend_iff (j := j) hn
    cases q <;> cases hqs <;> by_cases whole : n.isIntegral = true <;>
      simp [growNumber, whole, Below, widened]
  case float r =>
    have widened := fun j => (wellFormed_float.1 hp).inside_extend_iff (j := j) hn
    cases q <;> cases hqs <;> by_cases whole : n.isIntegral = true <;>
      simp [growNumber, whole, Below, widened]

theorem below_growString_iff (format : Option TextFormat) {p q : Shape}
    (hps : p.slot? = some .string) (hqs : q.slot? = some .string) :
    Below (growString format (some p)) q ↔ Below p q ∧ Below (growString format none) q := by
  cases p <;> cases hps
  cases q <;> cases hqs
  next known general =>
    simp only [growString, Below]
    by_cases same : known = format
    · simp [same]
    · rw [if_neg same]
      constructor
      · rintro (h | h) <;> exact ⟨.inr h, .inr h⟩
      · rintro ⟨rfl | h, h' | h'⟩
        · exact absurd h' same
        · exact .inl h'
        · exact .inl h
        · exact .inl h

section
variable (d : Detectors) {members : List (String × Json)} {f g : Fields Shape}

/-- Objects join key by key, if values do. -/
theorem below_takeIn_iff (ordered : Entries.Ordered members) (hf : f.Proper)
    (known : ∀ key t, f.get? key = some t → t.WellFormed)
    (joins : ∀ key v u, Entries.get? key members = some v → g.get? key = some u →
      ∀ {t : Shape}, t.WellFormed →
        (Below (absorb d v t) u ↔ Below t u ∧ Below (absorb d v unknown) u)) :
    Below (object (takeIn d members (some f))) (object g) ↔
      Below (object f) (object g) ∧ Below (object (takeIn d members none)) (object g) := by
  have proper : ∀ h ∈ some f, h.Proper := fun h hh => Option.some.inj hh ▸ hf
  have get?_some := get?_takeIn d ordered proper
  have get?_none := get?_takeIn d (f := none) ordered (by simp)
  have wellFormed : ∀ key, ((f.get? key).getD unknown).WellFormed := by
    intro key
    cases hk : f.get? key with
    | none => exact wellFormed_unknown
    | some t => exact known key t hk
  rw [below_object_iff, below_object_iff, below_object_iff]
  simp only [isRequired_takeIn, Bool.and_eq_true, Option.all_some, Option.all_none, and_true]
  constructor
  · rintro ⟨types, required⟩
    refine ⟨⟨fun key t ht => ?_, fun key hk => (required key hk).2⟩, fun key t ht => ?_,
      fun key hk => (required key hk).1⟩
    · cases hv : Entries.get? key members with
      -- a key that the object lacks is known as before
      | none => exact types key t (by rw [get?_some, hv]; exact ht)
      | some v =>
        obtain ⟨u, hu, below⟩ := types key (absorb d v t) (by
          rw [get?_some, hv, known?, Option.bind_some, ht, Option.getD_some])
        exact ⟨u, hu, ((joins key v u hv hu (known key t ht)).1 below).1⟩
    · rw [get?_none] at ht
      cases hv : Entries.get? key members with
      | none => rw [hv] at ht; cases ht
      | some v =>
        rw [hv] at ht
        obtain rfl := Option.some.inj ht
        obtain ⟨u, hu, below⟩ := types key _ (by rw [get?_some, hv])
        exact ⟨u, hu, ((joins key v u hv hu (wellFormed key)).1 below).2⟩
  · rintro ⟨⟨before, kept⟩, alone, needed⟩
    refine ⟨fun key t ht => ?_, fun key hk => ⟨needed key hk, kept key hk⟩⟩
    rw [get?_some] at ht
    cases hv : Entries.get? key members with
    | none =>
      rw [hv] at ht
      exact before key t ht
    | some v =>
      rw [hv] at ht
      obtain rfl := Option.some.inj ht
      obtain ⟨u, hu, below⟩ := alone key (absorb d v unknown) (by rw [get?_none, hv]; rfl)
      refine ⟨u, hu, (joins key v u hv hu (wellFormed key)).2 ⟨?_, below⟩⟩
      -- a key that is new takes its value in from unknown
      show Below ((f.get? key).getD unknown) u
      cases hk : f.get? key with
      | none => exact below_unknown u
      | some t =>
        obtain ⟨u', hu', below'⟩ := before key t hk
        obtain rfl : u = u' := Option.some.inj (hu.symm.trans hu')
        exact below'

end

/-! ## Values -/

section
variable (d : Detectors) {t u : Shape}

theorem below_absorb_null_iff (ht : t.WellFormed) (hu : u.WellFormed) :
    Below (absorb d .null t) u ↔ Below t u ∧ Below (absorb d .null unknown) u := by
  have whole := (wellFormed_absorb_null d ht).sound
  have alone := (wellFormed_absorb_null d wellFormed_unknown).sound
  rw [below_iff_parts whole hu.sound, below_iff_parts ht.sound hu.sound,
    below_iff_parts alone hu.sound]
  simp only [isNullable_absorb_null, part?_absorb_null, forall_const]
  have nothing : ∀ slot p, unknown.part? slot ≠ some p := fun slot p h => nomatch h
  constructor
  · rintro ⟨null, parts⟩
    exact ⟨⟨fun _ => null, parts⟩, null, fun slot p h => absurd h (nothing slot p)⟩
  · rintro ⟨⟨-, parts⟩, null, -⟩
    exact ⟨null, parts⟩

/-- What a shape with a value taken in is below: null and the other slots are as before, and in the
slot of the value is what has grown there. -/
theorem below_absorb_iff_parts {v : Json} {slot : Slot} (hs : v.slot? = some slot)
    (hv : v.Canonical) (ht : t.WellFormed) (hu : u.WellFormed) :
    Below (absorb d v t) u ↔ (t.isNullable = true → u.isNullable = true) ∧
      (∀ s, s ≠ slot → ∀ p, t.part? s = some p → ∃ q, u.part? s = some q ∧ Below p q) ∧
      ∃ q, u.part? slot = some q ∧ Below (grow d v (t.part? slot)) q := by
  rw [below_iff_parts (wellFormed_absorb d v hv ht).sound hu.sound, isNullable_absorb d hs]
  refine and_congr_right fun _ => ?_
  constructor
  · intro parts
    refine ⟨fun s hne p hp => parts s p ?_, parts slot _ (part?_absorb_self d hs t)⟩
    rw [part?_absorb d hs, if_neg hne, hp]
  · rintro ⟨others, own⟩ s p hp
    rw [part?_absorb d hs] at hp
    split at hp
    · next h =>
      obtain rfl := Option.some.inj hp
      rw [h]
      exact own
    · next hne => exact others s hne p hp

/-- Taking in a value joins if what grows in its slot does. -/
theorem below_absorb_iff_of_grow {v : Json} {slot : Slot} (hs : v.slot? = some slot)
    (hv : v.Canonical) (ht : t.WellFormed) (hu : u.WellFormed)
    (grown : ∀ p q, t.part? slot = some p → u.part? slot = some q →
      (Below (grow d v (some p)) q ↔ Below p q ∧ Below (grow d v none) q)) :
    Below (absorb d v t) u ↔ Below t u ∧ Below (absorb d v unknown) u := by
  have nothing : ∀ s p, unknown.part? s ≠ some p := fun s p h => nomatch h
  rw [below_absorb_iff_parts d hs hv ht hu,
    below_absorb_iff_parts d hs hv wellFormed_unknown hu, below_iff_parts ht.sound hu.sound]
  constructor
  · rintro ⟨null, others, q, hq, below⟩
    refine ⟨⟨null, fun s p hp => ?_⟩, nofun, fun s _ p hp => absurd hp (nothing s p), q, hq, ?_⟩
    · by_cases h : s = slot
      · subst h
        rw [hp] at below
        exact ⟨q, hq, ((grown p q hp hq).1 below).1⟩
      · exact others s h p hp
    · cases hp : t.part? slot with
      | none => rwa [hp] at below
      | some p =>
        rw [hp] at below
        exact ((grown p q hp hq).1 below).2
  · rintro ⟨⟨null, parts⟩, -, -, q, hq, below⟩
    refine ⟨null, fun s _ => parts s, q, hq, ?_⟩
    cases hp : t.part? slot with
    | none => exact below
    | some p =>
      obtain ⟨q', hq', below'⟩ := parts slot p hp
      obtain rfl : q = q' := Option.some.inj (hq.symm.trans hq')
      exact (grown p q hp hq).2 ⟨below', below⟩

/-- Arrays join item by item, if values do. -/
theorem below_absorbItems_iff {items : List Json} (hv : ∀ v ∈ items, v.Canonical)
    (joins : ∀ v ∈ items, ∀ {t : Shape}, t.WellFormed →
      (Below (absorb d v t) u ↔ Below t u ∧ Below (absorb d v unknown) u)) (ht : t.WellFormed) :
    Below (absorbItems d items t) u ↔ Below t u ∧ ∀ v ∈ items, Below (absorb d v unknown) u := by
  induction items generalizing t with
  | nil => simp [absorbItems]
  | cons v rest ih =>
    rw [List.forall_mem_cons] at hv joins
    rw [absorbItems, ih hv.2 joins.2 (wellFormed_absorb d v hv.1 ht), joins.1 ht,
      List.forall_mem_cons, and_assoc]

/-- A shape with a value taken in is below what both the shape and the value alone are below. -/
theorem below_absorb_iff {v : Json} (hv : v.Canonical) (ht : t.WellFormed) (hu : u.WellFormed) :
    Below (absorb d v t) u ↔ Below t u ∧ Below (absorb d v unknown) u := by
  induction v using Json.induct generalizing t u with
  | null => exact below_absorb_null_iff d ht hu
  | bool b =>
    refine below_absorb_iff_of_grow d rfl hv ht hu fun p q hp hq => ?_
    have hps := slot?_of_partOf? hp
    cases p <;> cases hps
    simp [grow]
  | number n =>
    refine below_absorb_iff_of_grow d rfl hv ht hu fun p q hp hq => ?_
    exact below_growNumber_iff n (ht.part? hp) (slot?_of_partOf? hp) (slot?_of_partOf? hq)
  | string s =>
    refine below_absorb_iff_of_grow d rfl hv ht hu fun p q hp hq => ?_
    exact below_growString_iff _ (slot?_of_partOf? hp) (slot?_of_partOf? hq)
  | array items ih =>
    refine below_absorb_iff_of_grow d rfl hv ht hu fun p q hp hq => ?_
    have hps := slot?_of_partOf? hp
    have hqs := slot?_of_partOf? hq
    have hpw := ht.part? hp
    have hqw := hu.part? hq
    cases p <;> cases hps
    cases q <;> cases hqs
    next s r =>
      have canonical := Json.canonicalItems_iff.1 hv
      have joined {t : Shape} (ht : t.WellFormed) := below_absorbItems_iff d canonical
        (fun v hm _ ht => ih v hm (canonical v hm) ht (wellFormed_array.1 hqw)) ht
      rw [grow_array, grow_array, below_array_iff, below_array_iff, below_array_iff]
      show Below (absorbItems d items s) r ↔ Below s r ∧ Below (absorbItems d items unknown) r
      rw [joined (wellFormed_array.1 hpw), joined wellFormed_unknown]
      simp only [below_unknown, true_and]
  | object members ih =>
    refine below_absorb_iff_of_grow d rfl hv ht hu fun p q hp hq => ?_
    have hps := slot?_of_partOf? hp
    have hqs := slot?_of_partOf? hq
    have hpw := ht.part? hp
    have hqw := hu.part? hq
    cases p <;> cases hps
    cases q <;> cases hqs
    next f g =>
      obtain ⟨hf, known⟩ := wellFormed_object.1 hpw
      obtain ⟨-, general⟩ := wellFormed_object.1 hqw
      rw [grow_object, grow_object]
      refine below_takeIn_iff d hv.1 hf (fun key t h => (known key t h).2) ?_
      intro key v u hv' hu' t ht
      have hm := Entries.mem_of_get? hv'
      exact ih _ hm (hv.members hm) ht (general key u hu').2

end

/-! ## The least upper bound -/

/-- A shape with a value taken in is the least, of the shapes that pass the check, that is above both the
shape and the shape of the value alone. -/
theorem below_absorb_least (d : Detectors) (v : Json) (t : Shape) (hv : v.Canonical)
    (canonical : t.Canonical) (passes : t.check = none) :
    Below t (absorb d v t) ∧ Below (absorb d v unknown) (absorb d v t) ∧
      ∀ u : Shape, u.Canonical → u.check = none → Below t u → Below (absorb d v unknown) u →
        Below (absorb d v t) u := by
  have ht : t.WellFormed := ⟨canonical, sound_of_check passes⟩
  have joined := wellFormed_absorb d v hv ht
  obtain ⟨left, right⟩ := (below_absorb_iff d hv ht joined).1 (below_refl joined)
  refine ⟨left, right, fun u hc hp below alone => ?_⟩
  exact (below_absorb_iff d hv ht ⟨hc, sound_of_check hp⟩).2 ⟨below, alone⟩

/-- Arrays of strings, or null, and an array with a truth value, below a shape with alternatives at two
levels. -/
theorem below_absorb_least_array :
    (nullable (array (string none))).Canonical ∧ (nullable (array (string none))).check = none ∧
    (Json.array [.bool true]).Canonical ∧
    Below (nullable (array (string none))) (nullable (array (anyOf [string none, boolean]))) ∧
    Below (array boolean) (nullable (array (anyOf [string none, boolean]))) ∧
    Below (nullable (array (anyOf [string none, boolean])))
      (nullable (anyOf [boolean, array (nullable (anyOf [boolean, string none]))])) := by
  have canonical : (nullable (array (string none))).Canonical := trivial
  have passes : (nullable (array (string none))).check = none := rfl
  have value : (Json.array [.bool true]).Canonical := ⟨trivial, trivial⟩
  obtain ⟨left, right, least⟩ :=
    below_absorb_least .all (.array [.bool true]) _ value canonical passes
  refine ⟨canonical, passes, value, left, right, least _ ?_ rfl ?_ ?_⟩
  · simp [Shape.Canonical, CanonicalAlternatives]
  · simp [Below]
  · show Below (array boolean) _
    simp [Below]

end Shape

end JsonShape
