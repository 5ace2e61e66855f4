import Mathlib.Data.String.Basic
import JsonShape.Proofs.Shape.Preservation

/-!
# The order of shapes by generality

`Shape.Below t u`: `u` is at least as general as `t`. For sound shapes this is said slot by slot
(`below_iff_parts`): `u` is nullable if `t` is, and what `t` knows about the values of a slot is below
what `u` knows about them. Between shapes of one slot it is a matter of ranges, formats, items and
keys. Every sound shape is below itself (`below_refl`).
-/

set_option autoImplicit false

namespace JsonShape

namespace Shape

/-! ## The order -/

theorem sizeOf_lt_object_of_get? {f : Fields Shape} {key : String} {t : Shape}
    (h : f.get? key = some t) : sizeOf t < sizeOf (object f) := by
  have := Fields.sizeOf_lt_of_get? h
  rw [object.sizeOf_spec]
  omega

/-- `u` is at least as general as `t`: it has wider ranges, fewer formats, more keys of which fewer are
required, more alternatives, and null at least where `t` has it. -/
def Below : Shape → Shape → Prop
  | unknown, _ => True
  -- null comes before alternatives, as it stands outside of them in a sound shape
  | nullable t, nullable u => Below t u
  | nullable _, _ => False
  | t, nullable u => Below t u
  | anyOf ts, anyOf us => ∀ t ∈ ts, ∃ u, ∃ _ : u ∈ us, Below t u
  | t, anyOf us => ∃ u, ∃ _ : u ∈ us, Below t u
  | boolean, boolean => True
  | int r, int s | int r, float s | float r, float s => r.inside s = true
  | string f, string g => g = f ∨ g = none
  | array t, array u => Below t u
  | object f, object g =>
    (∀ key t, f.get? key = some t → ∃ u, ∃ _ : g.get? key = some u, Below t u) ∧
      ∀ key, g.isRequired key = true → f.isRequired key = true
  | _, _ => False
termination_by _ u => sizeOf u
decreasing_by
  all_goals first
    | decreasing_tactic
    | exact sizeOf_lt_object_of_get? ‹_›

variable {t u : Shape}

theorem below_unknown (u : Shape) : Below unknown u := by
  rw [Below]
  trivial

theorem not_below_unknown (ht : t.isUnknown = false) : ¬ Below t unknown := by
  intro h
  cases t <;> simp [Below, isUnknown] at h ht

/-! ## Null -/

theorem below_nullable_iff : Below (nullable t) (nullable u) ↔ Below t u := by
  rw [Below]

/-- What is not nullable is below a nullable shape if it is below what that is without null. -/
theorem below_nullable_right_iff (ht : t.isNullable = false) :
    Below t (nullable u) ↔ Below t u := by
  cases t with
  | unknown => exact iff_of_true (below_unknown _) (below_unknown _)
  | nullable t => cases ht
  | _ => rw [Below] <;> simp

theorem isNullable_of_below (h : Below t u) (ht : t.isNullable = true) : u.isNullable = true := by
  cases t <;> cases ht
  cases u <;> first | rfl | simp [Below] at h

/-! ## Alternatives -/

theorem below_anyOf_iff {ts us : List Shape} :
    Below (anyOf ts) (anyOf us) ↔ ∀ t ∈ ts, ∃ u ∈ us, Below t u := by
  rw [Below]
  simp only [exists_prop]

/-- A shape of one slot is below alternatives if it is below one of them. -/
theorem below_anyOf_right_iff {slot : Slot} (ht : t.slot? = some slot) {us : List Shape} :
    Below t (anyOf us) ↔ ∃ u ∈ us, Below t u := by
  cases t <;> cases ht
  all_goals
    rw [Below] <;> simp

theorem not_below_of_slot {ts : List Shape} {slot : Slot} (hu : u.slot? = some slot) :
    ¬ Below (anyOf ts) u := by
  intro h
  cases u <;> cases hu <;> simp [Below] at h

/-! ## One slot -/

theorem slot?_eq_of_below {r s : Slot} (ht : t.slot? = some r) (hu : u.slot? = some s)
    (h : Below t u) : r = s := by
  cases t <;> cases ht <;> cases u <;> cases hu <;> first | rfl | simp [Below] at h

theorem below_array_iff : Below (array t) (array u) ↔ Below t u := by
  rw [Below]

theorem below_object_iff {f g : Fields Shape} : Below (object f) (object g) ↔
    (∀ key t, f.get? key = some t → ∃ u, g.get? key = some u ∧ Below t u) ∧
      ∀ key, g.isRequired key = true → f.isRequired key = true := by
  rw [Below]
  simp only [exists_prop]

/-! ## Slot by slot -/

/-- What is not nullable is nothing, of one slot, or has alternatives. -/
theorem eq_unknown_or_slot_or_anyOf (h : t.isNullable = false) :
    t = unknown ∨ (∃ slot, t.slot? = some slot) ∨ ∃ ts, t = anyOf ts := by
  cases t with
  | unknown => exact .inl rfl
  | nullable t => cases h
  | anyOf ts => exact .inr (.inr ⟨ts, rfl⟩)
  | _ => exact .inr (.inl ⟨_, rfl⟩)

/-- Null apart, a shape is below another one if each of its alternatives is below one of the other. -/
theorem below_iff_alternatives_of_not_nullable (ht : t.Sound) (hnt : t.isNullable = false)
    (hnu : u.isNullable = false) :
    Below t u ↔ ∀ p ∈ t.alternatives, ∃ q ∈ u.alternatives, Below p q := by
  rcases eq_unknown_or_slot_or_anyOf hnt with rfl | ⟨r, hr⟩ | ⟨ts, rfl⟩
  · simp [below_unknown, alternatives]
  · rw [alternatives_of_slot hr, List.forall_mem_singleton]
    have known : t.isUnknown = false := by
      cases t <;> first | rfl | cases hr
    rcases eq_unknown_or_slot_or_anyOf hnu with rfl | ⟨s, hs⟩ | ⟨us, rfl⟩
    · simp [not_below_unknown known, alternatives]
    · simp [alternatives_of_slot hs]
    · exact below_anyOf_right_iff hr
  · obtain ⟨many, nodup, slots⟩ := ht
    have slots := soundAlternatives_iff.1 slots
    rcases eq_unknown_or_slot_or_anyOf hnu with rfl | ⟨s, hs⟩ | ⟨us, rfl⟩
    · obtain ⟨p, hp⟩ := List.exists_mem_of_length_pos (l := ts) (by omega)
      refine iff_of_false (not_below_unknown rfl) fun h => ?_
      obtain ⟨q, hq, -⟩ := h p hp
      exact List.not_mem_nil hq
    · refine iff_of_false (not_below_of_slot hs) fun h => ?_
      -- two alternatives would be of the one slot
      have same : ∀ p ∈ ts, p.slot? = some s := by
        intro p hp
        obtain ⟨q, hq, hpq⟩ := h p hp
        rw [alternatives_of_slot hs, List.mem_singleton] at hq
        obtain ⟨r, hr⟩ := Option.isSome_iff_exists.1 (slots p hp).1
        rw [hr, slot?_eq_of_below hr (hq ▸ hs) hpq]
      rcases ts with - | ⟨p, - | ⟨q, rest⟩⟩
      · cases many
      · exact absurd many (Nat.lt_irrefl 1)
      · have hp := same p List.mem_cons_self
        have hq := same q (by simp)
        simp [hp, hq] at nodup
    · exact below_anyOf_iff

theorem below_iff_alternatives (ht : t.Sound) (hu : u.Sound) :
    Below t u ↔ (t.isNullable = true → u.isNullable = true) ∧
      ∀ p ∈ t.alternatives, ∃ q ∈ u.alternatives, Below p q := by
  cases hnt : t.isNullable with
  | true =>
    obtain ⟨t, rfl⟩ : ∃ s, t = nullable s := by
      cases t <;> first | exact ⟨_, rfl⟩ | cases hnt
    cases hnu : u.isNullable with
    | true =>
      obtain ⟨u, rfl⟩ : ∃ s, u = nullable s := by
        cases u <;> first | exact ⟨_, rfl⟩ | cases hnu
      rw [below_nullable_iff, below_iff_alternatives_of_not_nullable ht.2 ht.1 hu.1]
      simp [alternatives]
    | false =>
      refine iff_of_false (fun h => ?_) (by simp)
      rw [isNullable_of_below h hnt] at hnu
      cases hnu
  | false =>
    cases hnu : u.isNullable with
    | true =>
      obtain ⟨u, rfl⟩ : ∃ s, u = nullable s := by
        cases u <;> first | exact ⟨_, rfl⟩ | cases hnu
      rw [below_nullable_right_iff hnt, below_iff_alternatives_of_not_nullable ht hnt hu.1]
      simp [alternatives]
    | false =>
      rw [below_iff_alternatives_of_not_nullable ht hnt hnu]
      simp

/-- A sound shape is below another one if null and the shape of each slot are. -/
theorem below_iff_parts (ht : t.Sound) (hu : u.Sound) :
    Below t u ↔ (t.isNullable = true → u.isNullable = true) ∧
      ∀ slot p, t.part? slot = some p → ∃ q, u.part? slot = some q ∧ Below p q := by
  have partsOf := parts_alternatives t ht
  have partsOfU := parts_alternatives u hu
  rw [below_iff_alternatives ht hu]
  refine and_congr_right fun _ => ⟨fun h slot p hp => ?_, fun h p hp => ?_⟩
  · obtain ⟨q, hq, hpq⟩ := h p (mem_of_partOf? hp)
    obtain ⟨s, hs⟩ := Option.isSome_iff_exists.1 (partsOfU.slots q hq)
    obtain rfl := slot?_eq_of_below (slot?_of_partOf? hp) hs hpq
    exact ⟨q, partOf?_of_mem partsOfU.nodup hq hs, hpq⟩
  · obtain ⟨slot, hs⟩ := Option.isSome_iff_exists.1 (partsOf.slots p hp)
    obtain ⟨q, hq, hpq⟩ := h slot p (partOf?_of_mem partsOf.nodup hp hs)
    exact ⟨q, mem_of_partOf? hq, hpq⟩

/-! ## Every shape is below itself -/

theorem below_refl {t : Shape} (h : t.WellFormed) : Below t t := by
  induction t using Shape.induct with
  | unknown => exact below_unknown _
  | boolean => simp [Below]
  | int range => simpa [Below] using (wellFormed_int.1 h).inside_self
  | float range => simpa [Below] using (wellFormed_float.1 h).inside_self
  | string format => simp [Below]
  | array items ih => exact below_array_iff.2 (ih (wellFormed_array.1 h))
  | object required optional ihr iho =>
    obtain ⟨-, known⟩ := wellFormed_object.1 h
    refine below_object_iff.2 ⟨fun key t ht => ⟨t, ht, ?_⟩, fun key required => required⟩
    rcases Fields.mem_of_get? ht with hm | hm
    · exact ihr _ hm (known key t ht).2
    · exact iho _ hm (known key t ht).2
  | nullable inner ih => exact below_nullable_iff.2 (ih (wellFormed_nullable.1 h).2)
  | anyOf ts ih =>
    obtain ⟨-, -, each⟩ := wellFormed_anyOf.1 h
    exact below_anyOf_iff.2 fun t ht => ⟨t, ht, ih t ht (each t ht).2⟩

end Shape

end JsonShape
