import Mathlib.Data.String.Basic
import JsonShape.Json.Written
import JsonShape.Proofs.Entries.Lookup

/-!
# Values with members in order

Putting a value in order gives one that is `Json.Canonical` (`canonical_canonical`), and changes
nothing of one that is (`canonical_eq_self`). So every value that is read from a text is canonical.
In a `Json.Distinct` value, where no object repeats a key, it moves members and drops none
(`ofList_canonicalMembers_perm`). The induction on values is `Json.induct`.
-/

set_option autoImplicit false

namespace JsonShape

namespace Json

section
variable {motive : Json → Prop} (null : motive null) (bool : ∀ b, motive (bool b))
  (number : ∀ n, motive (number n)) (string : ∀ s, motive (string s))
  (array : ∀ items, (∀ v ∈ items, motive v) → motive (array items))
  (object : ∀ members, (∀ m ∈ members, motive m.2) → motive (object members))
include null bool number string array object

/-- Induction on a value: all items, and the values of all members, at once. -/
@[elab_as_elim]
theorem induct : ∀ v : Json, motive v
  | .null => null
  | .bool b => bool b
  | .number n => number n
  | .string s => string s
  | .array items => array items fun v _ => induct v
  | .object members => object members fun m _ => induct m.2
termination_by v => sizeOf v
decreasing_by
  · decreasing_tactic
  · have := Entries.sizeOf_lt_of_mem ‹_›
    rw [Json.object.sizeOf_spec]
    omega

end

theorem canonicalItems_iff {items : List Json} :
    CanonicalItems items ↔ ∀ v ∈ items, v.Canonical := by
  induction items with
  | nil => simp [CanonicalItems]
  | cons v items ih => simp [CanonicalItems, ih]

theorem canonicalMembers_iff {members : List (String × Json)} :
    CanonicalMembers members ↔ ∀ m ∈ members, m.2.Canonical := by
  induction members with
  | nil => simp [CanonicalMembers]
  | cons m members ih => simp [CanonicalMembers, ih]

theorem canonicalItems_eq_map (items : List Json) : canonicalItems items = items.map canonical := by
  induction items with
  | nil => rfl
  | cons v items ih => rw [canonicalItems, ih, List.map_cons]

theorem canonicalMembers_eq_mapValues (members : List (String × Json)) :
    canonicalMembers members = Entries.mapValues canonical members := by
  induction members with
  | nil => rfl
  | cons m members ih =>
    rw [canonicalMembers, ih]
    rfl

/-- A value put in order is in order. -/
theorem canonical_canonical (v : Json) : v.canonical.Canonical := by
  induction v using Json.induct with
  | null | bool _ | number _ | string _ => trivial
  | array items ih =>
    rw [canonical, Canonical, canonicalItems_iff, canonicalItems_eq_map]
    intro v hv
    obtain ⟨w, hw, rfl⟩ := List.mem_map.1 hv
    exact ih w hw
  | object members ih =>
    rw [canonical, Canonical, canonicalMembers_iff, canonicalMembers_eq_mapValues]
    refine ⟨Entries.ordered_ofList _, fun m hm => ?_⟩
    obtain ⟨w, hw, rfl⟩ := List.mem_map.1 (Entries.mem_of_mem_ofList hm)
    exact ih w hw

/-- A value in order is put in order as it is. -/
theorem canonical_eq_self {v : Json} (h : v.Canonical) : v.canonical = v := by
  induction v using Json.induct with
  | null | bool _ | number _ | string _ => rfl
  | array items ih =>
    have same : ∀ v ∈ items, v.canonical = v := fun v hv => ih v hv (canonicalItems_iff.1 h v hv)
    rw [canonical, canonicalItems_eq_map, List.map_congr_left same, List.map_id']
  | object members ih =>
    have same : ∀ m ∈ members, (m.1, m.2.canonical) = m := fun m hm =>
      Prod.ext rfl (ih m hm (canonicalMembers_iff.1 h.2 m hm))
    rw [canonical, canonicalMembers_eq_mapValues, Entries.mapValues, List.map_congr_left same,
      List.map_id', Entries.ofList_eq_self h.1]

/-- What a text denotes is in order. -/
theorem canonical_of_read? {text : String} {v : Json} (h : read? text = some v) : v.Canonical := by
  rw [read?, Option.map_eq_some_iff] at h
  obtain ⟨w, -, rfl⟩ := h
  exact canonical_canonical w

/-! ## Parts of a value -/

theorem Canonical.items {items : List Json} (h : (array items).Canonical) {v : Json}
    (hv : v ∈ items) : v.Canonical :=
  canonicalItems_iff.1 h v hv

theorem Canonical.members {members : List (String × Json)} (h : (object members).Canonical)
    {m : String × Json} (hm : m ∈ members) : m.2.Canonical :=
  canonicalMembers_iff.1 h.2 m hm

theorem Canonical.get? {v w : Json} (h : v.Canonical) {key : String} (hw : v.get? key = some w) :
    w.Canonical := by
  cases v with
  | object members => exact h.members (Entries.mem_of_get? hw)
  | null | bool _ | number _ | string _ | array _ => cases hw

/-! ## Values without a repeated key -/

mutual

/-- No object in the value has two members of one key. -/
def Distinct : Json → Prop
  | array items => DistinctItems items
  | object members => (Entries.keys members).Nodup ∧ DistinctMembers members
  | _ => True

/-- `Distinct`, for each item. -/
def DistinctItems : List Json → Prop
  | [] => True
  | v :: rest => Distinct v ∧ DistinctItems rest

/-- `Distinct`, for the value of each member. -/
def DistinctMembers : List (String × Json) → Prop
  | [] => True
  | (_, v) :: rest => Distinct v ∧ DistinctMembers rest

end

theorem distinctItems_iff {items : List Json} :
    DistinctItems items ↔ ∀ v ∈ items, v.Distinct := by
  induction items with
  | nil => simp [DistinctItems]
  | cons v items ih => simp [DistinctItems, ih]

theorem distinctMembers_iff {members : List (String × Json)} :
    DistinctMembers members ↔ ∀ m ∈ members, m.2.Distinct := by
  induction members with
  | nil => simp [DistinctMembers]
  | cons m members ih => simp [DistinctMembers, ih]

theorem keys_canonicalMembers (members : List (String × Json)) :
    Entries.keys (canonicalMembers members) = Entries.keys members := by
  rw [canonicalMembers_eq_mapValues, Entries.keys_mapValues]

/-- Members of different keys are only moved when they are put in order. -/
theorem ofList_canonicalMembers_perm {members : List (String × Json)}
    (nodup : (Entries.keys members).Nodup) :
    (Entries.ofList (canonicalMembers members)).Perm (canonicalMembers members) := by
  refine Entries.ofList_perm ?_
  rw [keys_canonicalMembers]
  exact nodup

end Json

end JsonShape
