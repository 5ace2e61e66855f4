import Mathlib.Data.List.Induction
import Mathlib.Data.String.Basic
import JsonShape.Proofs.Json.Nesting
import JsonShape.Proofs.Shape.Fields

/-!
# Groups of values

The values of a list by slot, in the order of the list: its numbers, its strings, the items of all its
arrays in one list, its objects, and the values that the objects have under a key. Items and values
under keys nest less deep than the list that they come from (`nestingItems_itemsOf_lt`,
`nestingItems_valuesOf_lt`), which is what a definition by groups recurs on.
-/

set_option autoImplicit false

namespace JsonShape

namespace Json

/-! ## Groups -/

/-- The slots that values are of, in the order in which they first come. -/
def slotsOf (vs : List Json) : List Slot := (vs.filterMap slot?).eraseDups

/-- Whether a value is null. -/
def isNull : Json → Bool
  | null => true
  | _ => false

/-- The numbers among values. -/
def numbersOf (vs : List Json) : List Number :=
  vs.filterMap fun
    | number n => some n
    | _ => none

/-- The strings among values. -/
def stringsOf (vs : List Json) : List String :=
  vs.filterMap fun
    | string s => some s
    | _ => none

/-- The items of all arrays among values, in order. -/
def itemsOf (vs : List Json) : List Json :=
  vs.flatMap fun
    | array items => items
    | _ => []

/-- The members of each object among values. -/
def objectsOf (vs : List Json) : List (Entries Json) :=
  vs.filterMap fun
    | object members => some members
    | _ => none

/-- The keys of objects, in order. -/
def keysOf (objects : List (Entries Json)) : List String :=
  Entries.keys (Entries.ofList objects.flatten)

/-- The values that objects have under a key, in order. -/
def valuesOf (key : String) (objects : List (Entries Json)) : List Json :=
  objects.filterMap (Entries.get? key)

/-! ## Members of groups -/

theorem mem_slotsOf {vs : List Json} {slot : Slot} :
    slot ∈ slotsOf vs ↔ ∃ v ∈ vs, v.slot? = some slot := by
  rw [slotsOf, List.mem_eraseDups, List.mem_filterMap]

theorem mem_itemsOf {vs : List Json} {w : Json} :
    w ∈ itemsOf vs ↔ ∃ items, .array items ∈ vs ∧ w ∈ items := by
  rw [itemsOf, List.mem_flatMap]
  constructor
  · rintro ⟨v, hv, hw⟩
    split at hw
    · next items => exact ⟨items, hv, hw⟩
    · cases hw
  · rintro ⟨items, hv, hw⟩
    exact ⟨_, hv, hw⟩

theorem mem_objectsOf {vs : List Json} {members : Entries Json} :
    members ∈ objectsOf vs ↔ .object members ∈ vs := by
  rw [objectsOf, List.mem_filterMap]
  constructor
  · rintro ⟨v, hv, he⟩
    split at he
    · cases he; exact hv
    · cases he
  · intro h
    exact ⟨_, h, rfl⟩

theorem mem_valuesOf {key : String} {objects : List (Entries Json)} {w : Json}
    (h : w ∈ valuesOf key objects) : ∃ members ∈ objects, (key, w) ∈ members := by
  obtain ⟨members, hm, hw⟩ := List.mem_filterMap.1 h
  exact ⟨members, hm, Entries.mem_of_get? hw⟩

theorem nestingItems_itemsOf_lt {vs : List Json} (h : Slot.array ∈ slotsOf vs) :
    nestingItems (itemsOf vs) < nestingItems vs := by
  obtain ⟨v, hv, hs⟩ := mem_slotsOf.1 h
  refine nestingItems_lt ⟨v, hv, by cases v <;> simp_all [slot?, nesting]⟩ fun w hw => ?_
  obtain ⟨items, hm, hw⟩ := mem_itemsOf.1 hw
  exact ⟨_, hm, nesting_lt_of_mem_items hw⟩

theorem nestingItems_valuesOf_lt {vs : List Json} (key : String) (h : Slot.object ∈ slotsOf vs) :
    nestingItems (valuesOf key (objectsOf vs)) < nestingItems vs := by
  obtain ⟨v, hv, hs⟩ := mem_slotsOf.1 h
  refine nestingItems_lt ⟨v, hv, by cases v <;> simp_all [slot?, nesting]⟩ fun w hw => ?_
  obtain ⟨members, ho, hm⟩ := mem_valuesOf hw
  exact ⟨_, mem_objectsOf.1 ho, nesting_lt_of_mem_members hm⟩

theorem numbersOf_eq_nil {vs : List Json} : numbersOf vs = [] ↔ Slot.number ∉ slotsOf vs := by
  rw [numbersOf, List.filterMap_eq_nil_iff, mem_slotsOf, not_exists]
  refine forall_congr' fun v => ?_
  cases v <;> simp [Json.slot?]

theorem stringsOf_eq_nil {vs : List Json} : stringsOf vs = [] ↔ Slot.string ∉ slotsOf vs := by
  rw [stringsOf, List.filterMap_eq_nil_iff, mem_slotsOf, not_exists]
  refine forall_congr' fun v => ?_
  cases v <;> simp [Json.slot?]

theorem itemsOf_eq_nil {vs : List Json} (h : Slot.array ∉ slotsOf vs) : itemsOf vs = [] := by
  refine List.eq_nil_iff_forall_not_mem.2 fun w hw => h ?_
  obtain ⟨items, hm, -⟩ := mem_itemsOf.1 hw
  exact mem_slotsOf.2 ⟨_, hm, rfl⟩

theorem objectsOf_eq_nil {vs : List Json} (h : Slot.object ∉ slotsOf vs) : objectsOf vs = [] := by
  refine List.eq_nil_iff_forall_not_mem.2 fun members hm => h ?_
  exact mem_slotsOf.2 ⟨_, mem_objectsOf.1 hm, rfl⟩

theorem valuesOf_eq_nil {objects : List (Entries Json)} {key : String}
    (h : objects.any (Entries.has key) = false) : valuesOf key objects = [] := by
  rw [valuesOf, List.filterMap_eq_nil_iff]
  intro o ho
  have := List.any_eq_false.1 h o ho
  simpa [Entries.has] using this

/-! ## Slots in order -/

theorem eraseDups_concat {α : Type} [DecidableEq α] (as : List α) (a : α) :
    (as ++ [a]).eraseDups = if a ∈ as then as.eraseDups else as.eraseDups ++ [a] := by
  rw [List.eraseDups_append, List.removeAll, List.filter_singleton, List.elem_eq_mem]
  by_cases h : a ∈ as <;> simp [h, List.eraseDups_cons]

theorem nodup_eraseDups {α : Type} [DecidableEq α] (as : List α) : as.eraseDups.Nodup := by
  induction as using List.reverseRecOn with
  | nil => exact List.nodup_nil
  | append_singleton as a ih =>
    rw [eraseDups_concat]
    split
    · exact ih
    · next hn =>
      refine List.nodup_append.2 ⟨ih, by simp, fun b hb c hc he => hn ?_⟩
      rw [← List.mem_singleton.1 hc, ← he]
      exact List.mem_eraseDups.1 hb

theorem nodup_slotsOf (vs : List Json) : (slotsOf vs).Nodup := nodup_eraseDups _

theorem slotsOf_append_null (vs : List Json) : slotsOf (vs ++ [.null]) = slotsOf vs := by
  rw [slotsOf, List.filterMap_append]
  exact congrArg List.eraseDups (List.append_nil _)

theorem slotsOf_append {v : Json} {slot : Slot} (h : v.slot? = some slot) (vs : List Json) :
    slotsOf (vs ++ [v]) = if slot ∈ slotsOf vs then slotsOf vs else slotsOf vs ++ [slot] := by
  simp only [slotsOf, List.filterMap_append, List.filterMap_cons, h, List.filterMap_nil,
    eraseDups_concat, List.mem_eraseDups]

/-! ## Keys of objects -/

theorem mem_keysOf {objects : List (Entries Json)} {key : String} :
    key ∈ keysOf objects ↔ objects.any (Entries.has key) = true := by
  rw [keysOf, Entries.mem_keys_ofList, List.any_eq_true]
  simp only [Entries.has_iff_mem_keys, Entries.keys, List.mem_map, List.mem_flatten]
  tauto

theorem ordered_keysOf (objects : List (Entries Json)) : (keysOf objects).Pairwise (· < ·) :=
  Entries.ordered_ofList _

end Json

/-- The keys of objects, each with what is known about it: required those that all of them have. -/
def Fields.ofObjects {α : Type} (objects : List (Entries Json)) (known : String → α) : Fields α :=
  let shared := fun key => objects.all (Entries.has key)
  ⟨((Json.keysOf objects).filter shared).map fun key => (key, known key),
    ((Json.keysOf objects).filter fun key => !shared key).map fun key => (key, known key)⟩

namespace Fields

variable {α : Type} {objects : List (Entries Json)} {known : String → α}

theorem ofObjects_proper : (ofObjects objects known).Proper where
  required := by
    rw [Entries.Ordered, ofObjects, Entries.keys_map_key]
    exact (Json.ordered_keysOf objects).filter _
  optional := by
    rw [Entries.Ordered, ofObjects, Entries.keys_map_key]
    exact (Json.ordered_keysOf objects).filter _
  apart := by
    simp only [ofObjects, Entries.keys_map_key, List.mem_filter]
    rintro key ⟨-, hr⟩ ⟨-, ho⟩
    rw [hr] at ho
    cases ho

theorem isRequired_ofObjects (key : String) : (ofObjects objects known).isRequired key =
    (objects.any (Entries.has key) && objects.all (Entries.has key)) := by
  rw [isRequired, ofObjects, Entries.has, Entries.get?_map_key]
  simp only [List.mem_filter, Json.mem_keysOf]
  cases objects.any (Entries.has key) <;> cases objects.all (Entries.has key) <;> rfl

theorem get?_ofObjects (key : String) : (ofObjects objects known).get? key =
    if objects.any (Entries.has key) then some (known key) else none := by
  simp only [get?, ofObjects, Entries.get?_map_key, List.mem_filter, Json.mem_keysOf]
  cases objects.any (Entries.has key) <;> cases objects.all (Entries.has key) <;> simp

end Fields

end JsonShape
