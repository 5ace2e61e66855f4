import Mathlib.Data.String.Basic
import JsonShape.Proofs.Shape.Meaning
import JsonShape.Shape.Codec

/-!
# How deep the text of a shape nests

A shape is written with more arrays and objects around one another than the values it describes: a range
is an object of its own, and an object shape holds its keys one level further in. `Shape.depth` counts
them on the shape, and it is the nesting of what `Shape.toJson` writes (`nesting_toJson`). At most five
levels come for each level of the values, with their own five at the leaves (`depth_absorbAll_le`).
-/

set_option autoImplicit false

namespace JsonShape

namespace Shape

mutual

/-- How many arrays and objects are inside one another where a shape is written, at most. -/
def depth : Shape → Nat
  | unknown | boolean | string _ => 1
  | int _ | float _ => 2
  | array items => depth items + 1
  | object ⟨required, optional⟩ =>
    Max.max (depthOfProperties required) (depthOfProperties optional) + 2
  | nullable inner => depth inner + 1
  | anyOf alternatives => depthOfAlternatives alternatives + 2

/-- `depth`, the most of all keys. -/
def depthOfProperties : List (String × Shape) → Nat
  | [] => 0
  | (_, t) :: rest => Max.max (depth t) (depthOfProperties rest)

/-- `depth`, the most of all alternatives. -/
def depthOfAlternatives : List Shape → Nat
  | [] => 0
  | t :: rest => Max.max (depth t) (depthOfAlternatives rest)

end

theorem nesting_range (range : Interval) : range.toJson.nesting = 1 := by
  have leaf : ∀ x, (Json.ofDouble x).nesting = 0 := by
    intro x
    unfold Json.ofDouble
    split <;> rfl
  simp [Interval.toJson, Json.nesting, Json.nestingMembers, leaf]

mutual

/-- The depth of a shape is the nesting of the value that it is written as. -/
theorem nesting_toJson : ∀ t : Shape, t.toJson.nesting = t.depth
  | unknown | boolean => rfl
  | int range | float range => by
    simp [toJson, Json.nesting, Json.nestingMembers, typeMember, nesting_range, depth]
  | string none | string (some _) => rfl
  | array items => by
    simp [toJson, Json.nesting, Json.nestingMembers, typeMember, nesting_toJson items, depth]
  | object ⟨required, optional⟩ => by
    simp only [toJson, Json.nesting, Json.nestingMembers, typeMember, depth,
      nestingMembers_toJsonMembers required, nestingMembers_toJsonMembers optional]
    omega
  | nullable inner => by
    simp [toJson, Json.nesting, Json.nestingMembers, typeMember, nesting_toJson inner, depth]
  | anyOf alternatives => by
    simp [toJson, Json.nesting, Json.nestingMembers, typeMember,
      nestingItems_toJsonItems alternatives, depth]

theorem nestingMembers_toJsonMembers : ∀ es : List (String × Shape),
    Json.nestingMembers (toJsonMembers es) = depthOfProperties es
  | [] => rfl
  | (key, t) :: rest => by
    rw [toJsonMembers, Json.nestingMembers, nesting_toJson t, nestingMembers_toJsonMembers rest,
      depthOfProperties]

theorem nestingItems_toJsonItems : ∀ ts : List Shape,
    Json.nestingItems (toJsonItems ts) = depthOfAlternatives ts
  | [] => rfl
  | t :: rest => by
    rw [toJsonItems, Json.nestingItems, nesting_toJson t, nestingItems_toJsonItems rest,
      depthOfAlternatives]

end

/-! ## The depth of a run -/

theorem depthOfProperties_le_iff {es : Entries Shape} {n : Nat} :
    depthOfProperties es ≤ n ↔ ∀ e ∈ es, e.2.depth ≤ n := by
  induction es with
  | nil => simp [depthOfProperties]
  | cons e es ih => rw [depthOfProperties, Nat.max_le, ih, List.forall_mem_cons]

theorem depthOfAlternatives_le_iff {ts : List Shape} {n : Nat} :
    depthOfAlternatives ts ≤ n ↔ ∀ t ∈ ts, t.depth ≤ n := by
  induction ts with
  | nil => simp [depthOfAlternatives]
  | cons t ts ih => rw [depthOfAlternatives, Nat.max_le, ih, List.forall_mem_cons]

/-- What is said once for all slots takes three levels more than what is said for each. -/
theorem depth_rebuild_le (null : Bool) {ts : List Shape} {n : Nat} (h : ∀ t ∈ ts, t.depth ≤ n) :
    (rebuild null ts).depth ≤ n + 3 := by
  have alternatives : (ofAlternatives ts).depth ≤ n + 2 := by
    match ts with
    | [] =>
      rw [ofAlternatives, depth]
      omega
    | [t] =>
      have := h t List.mem_cons_self
      rw [ofAlternatives]
      omega
    | t :: u :: rest =>
      have := depthOfAlternatives_le_iff.2 h
      show (anyOf (t :: u :: rest)).depth ≤ n + 2
      rw [depth]
      omega
  cases null with
  | true =>
    rw [rebuild, if_pos rfl, depth]
    omega
  | false =>
    rw [rebuild, if_neg (by simp)]
    omega

theorem depth_object_le {f : Fields Shape} {n : Nat} (required : ∀ e ∈ f.required, e.2.depth ≤ n)
    (optional : ∀ e ∈ f.optional, e.2.depth ≤ n) : (object f).depth ≤ n + 2 := by
  have both := Nat.max_le.2
    ⟨depthOfProperties_le_iff.2 required, depthOfProperties_le_iff.2 optional⟩
  rw [depth]
  omega

/-- The shape of values that nest `n` deep is at most `5 * n + 5` deep. -/
theorem depth_ofValues_le (d : Detectors) {n : Nat} {vs : List Json}
    (hn : Json.nestingItems vs ≤ n) : (ofValues d vs).depth ≤ 5 * n + 5 := by
  induction n using Nat.strongRecOn generalizing vs with
  | ind n ih =>
    have groups : ∀ t ∈ (Json.slotsOf vs).map (group d vs), t.depth ≤ 5 * n + 2 := by
      intro t ht
      obtain ⟨slot, here, rfl⟩ := List.mem_map.1 ht
      cases slot with
      | boolean =>
        rw [group, depth]
        omega
      | number =>
        rw [group, ofNumbers]
        split
        · rw [depth]
          omega
        · rw [depth]
          omega
      | string =>
        rw [group, depth]
        omega
      | array =>
        have less := Json.nestingItems_itemsOf_lt here
        have inner := ih (Json.nestingItems (Json.itemsOf vs)) (by omega) (Nat.le_refl _)
        rw [group, depth]
        omega
      | object =>
        -- the values of a key nest less deep, which pays for the two levels of the object
        have inner : ∀ key,
            (ofValues d (Json.valuesOf key (Json.objectsOf vs))).depth ≤ 5 * n := by
          intro key
          have less := Json.nestingItems_valuesOf_lt key here
          have within : Json.nestingItems (Json.valuesOf key (Json.objectsOf vs)) ≤ n - 1 := by omega
          have := ih (n - 1) (by omega) within
          omega
        refine depth_object_le (fun e he => ?_) fun e he => ?_
        · obtain ⟨key, -, rfl⟩ := List.mem_map.1 he
          exact inner key
        · obtain ⟨key, -, rfl⟩ := List.mem_map.1 he
          exact inner key
    have := depth_rebuild_le (vs.any Json.isNull) groups
    rw [ofValues_eq]
    omega

/-- The shape of values that have been taken in is at most five levels deeper for each level of the
deepest one. -/
theorem depth_absorbAll_le (d : Detectors) {vs : List Json} (hv : ∀ v ∈ vs, v.Canonical) {n : Nat}
    (hn : ∀ v ∈ vs, v.nesting ≤ n) : (absorbAll d vs unknown).depth ≤ 5 * n + 5 := by
  have within := Json.nestingItems_le_iff.2 hn
  rw [absorbAll_of_nestingItems_le d within hv]
  exact depth_ofValues_le d within

end Shape

end JsonShape
