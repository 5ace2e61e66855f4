import Mathlib.Algebra.Order.BigOperators.Group.List
import Mathlib.Data.String.Basic
import Mathlib.Tactic.Choose
import JsonShape.Proofs.Shape.Meaning
import JsonShape.Proofs.Shape.Nodes
import JsonShape.Proofs.Shape.Stability
import JsonShape.Proofs.Shape.Tables

/-!
# Values for a shape

Values realize a shape if they come to it, taken in one after another (`Shape.Realizes`). Every shape
that passes the check is realized, if its numbers and formats are ones that there are
(`Shape.Grounded`): `exists_realizes`. The values are found from the leaves up.

* One array realizes the shape of an array: its items realize that of the items. One more null
  realizes a nullable shape.
* Alternatives are realized one after another. Values that realize a shape of one slot are of that
  slot (`Realizes.slot?_of_mem`), so they leave the alternatives before them as they are
  (`absorbAll_rebuild`).
* The rows of a table realize an object. A column in which a value comes again realizes the same shape
  (`Realizes.column`), so that columns of different lengths make one table.

Conversely, a shape that is realized passes the check and is grounded (`Realizes.check_and_grounded`).
-/

set_option autoImplicit false

namespace JsonShape

/-- The empty string has no format. -/
theorem Detectors.detect_empty (d : Detectors) : d.detect "" = .none := by
  rw [detect, List.find?_eq_none]
  intro format _
  have : format.recognises "" = false := by cases format <;> decide
  rw [this, Bool.and_false]
  exact Bool.false_ne_true

namespace Shape

/-! ## Leaves -/

/-- A node that is a leaf is one that values come to: a range is that of some numbers, a format that of
some string. -/
def Attained (d : Detectors) : Shape → Prop
  | t@(int _) | t@(float _) =>
    ∃ ns : List Number, ns ≠ [] ∧ absorbAll d (ns.map Json.number) unknown = t
  | string (some format) => ∃ s : String, d.detect s = some format
  | _ => True

/-- All leaves of a tree are attained. -/
def Grounded (d : Detectors) (t : Shape) : Prop := ∀ s, Node s t → s.Attained d

section
variable {d : Detectors}

theorem grounded_iff {t : Shape} :
    Grounded d t ↔ t.Attained d ∧ ∀ u ∈ t.children, Grounded d u := forall_node_iff

theorem grounded_leaf {t : Shape} (leaf : t.children = []) : Grounded d t ↔ t.Attained d := by
  rw [grounded_iff, leaf]
  simp

theorem grounded_array {t : Shape} : Grounded d (array t) ↔ Grounded d t := by
  rw [grounded_iff]
  simp [Attained, children]

theorem grounded_nullable {t : Shape} : Grounded d (nullable t) ↔ Grounded d t := by
  rw [grounded_iff]
  simp [Attained, children]

theorem grounded_anyOf {ts : List Shape} :
    Grounded d (anyOf ts) ↔ ∀ t ∈ ts, Grounded d t := by
  rw [grounded_iff]
  simp [Attained, children]

theorem grounded_object {required optional : Entries Shape} :
    Grounded d (object ⟨required, optional⟩) ↔
      (∀ e ∈ required, Grounded d e.2) ∧ ∀ e ∈ optional, Grounded d e.2 := by
  rw [grounded_iff]
  simp only [Attained, children, true_and, List.forall_mem_map, List.forall_mem_append]

end

/-- Values, taken in one after another, come to a shape. -/
structure Realizes (d : Detectors) (vs : List Json) (t : Shape) : Prop where
  canonical : ∀ v ∈ vs, v.Canonical
  run : absorbAll d vs unknown = t

section
variable {d : Detectors}

theorem realizes_numbers {t : Shape} {ns : List Number}
    (h : absorbAll d (ns.map Json.number) unknown = t) : Realizes d (ns.map Json.number) t where
  canonical := by
    intro v hv
    obtain ⟨n, -, rfl⟩ := List.mem_map.1 hv
    trivial
  run := h

theorem realizes_string (s : String) : Realizes d [.string s] (string (d.detect s)) where
  canonical := by simp [Json.Canonical]
  run := rfl

/-! ## Arrays and null -/

theorem Realizes.array {vs : List Json} {t : Shape} (h : Realizes d vs t) :
    Realizes d [.array vs] (array t) where
  canonical := by
    rw [List.forall_mem_singleton]
    exact Json.canonicalItems_iff.2 h.canonical
  run := by
    show Shape.array (absorbItems d vs unknown) = Shape.array t
    rw [absorbItems_eq_absorbAll, h.run]

theorem Realizes.nullable {vs : List Json} {t : Shape} (h : Realizes d vs t)
    (once : t.isNullable = false) : Realizes d (vs ++ [.null]) (nullable t) where
  canonical := by
    rw [List.forall_mem_append, List.forall_mem_singleton]
    exact ⟨h.canonical, trivial⟩
  run := by
    rw [absorbAll_append, h.run]
    show receiveNull t = Shape.nullable t
    cases t <;> first | rfl | cases once

/-! ## Alternatives -/

/-- Values that come to a shape of one slot are of that slot. -/
theorem Realizes.slot?_of_mem {vs : List Json} {t : Shape} (h : Realizes d vs t) {slot : Slot}
    (ht : t.slot? = some slot) {v : Json} (hv : v ∈ vs) : v.slot? = some slot := by
  have same : absorb d v t = t := by
    have := absorb_absorbAll_of_mem d h.canonical wellFormed_unknown hv
    rwa [h.run] at this
  cases hs : v.slot? with
  | none =>
    rw [Json.slot?_eq_none_iff.1 hs] at same
    have null := isNullable_absorb_null d t
    rw [same, isNullable_of_slot (by rw [ht]; rfl)] at null
    cases null
  | some s =>
    have part := part?_absorb_self d hs t
    have mem := mem_of_partOf? part
    rw [same, alternatives_of_slot ht, List.mem_singleton] at mem
    rw [← slot?_grow d hs (t.part? s), mem, ht]

theorem growFirst_append {slot : Slot} (f : Option Shape → Shape) {us : List Shape}
    (new : some slot ∉ us.map slot?) (ts : List Shape) :
    growFirst slot f (us ++ ts) = us ++ growFirst slot f ts := by
  induction us with
  | nil => rfl
  | cons u us ih =>
    rw [List.map_cons, List.mem_cons, not_or] at new
    rw [List.cons_append, growFirst, if_neg (Ne.symm new.1), ih new.2, List.cons_append]

/-- Values of a new slot are taken in behind the alternatives that there are. -/
theorem absorbAll_rebuild {vs : List Json} (hv : ∀ v ∈ vs, v.Canonical) {slot : Slot}
    (slots : ∀ v ∈ vs, v.slot? = some slot) {us : List Shape}
    (hu : ∀ u ∈ us, u.slot?.isSome = true) (new : some slot ∉ us.map slot?) :
    absorbAll d vs (rebuild false us) =
      rebuild false (us ++ (absorbAll d vs unknown).alternatives) := by
  induction vs using List.reverseRecOn with
  | nil => rw [absorbAll, List.foldl_nil, absorbAll, List.foldl_nil, alternatives, List.append_nil]
  | append_singleton vs v ih =>
    rw [List.forall_mem_append, List.forall_mem_singleton] at hv slots
    have before := wellFormed_absorbAll d hv.1 wellFormed_unknown
    have parts := parts_alternatives _ before.sound
    have all := List.forall_mem_append.2 ⟨hu, parts.slots⟩
    rw [absorbAll_append, ih hv.1 slots.1, absorbAll_append]
    show absorb d v (rebuild false _) = rebuild false (us ++ (absorb d v _).alternatives)
    rw [absorb_rebuild d slots.2 false all, growFirst_append _ new, alternatives_absorb d slots.2]

/-- Shapes of different slots are realized together. -/
theorem exists_realizes_rebuild {ts : List Shape} (slots : ∀ t ∈ ts, t.slot?.isSome = true)
    (nodup : (ts.map slot?).Nodup) (each : ∀ t ∈ ts, ∃ vs, Realizes d vs t) :
    ∃ vs, Realizes d vs (rebuild false ts) := by
  induction ts using List.reverseRecOn with
  | nil => exact ⟨[], by simp, rfl⟩
  | append_singleton ts t ih =>
    rw [List.forall_mem_append, List.forall_mem_singleton] at slots each
    rw [List.map_append, List.map_singleton, List.nodup_append] at nodup
    obtain ⟨before, hb⟩ := ih slots.1 nodup.1 each.1
    obtain ⟨vs, h⟩ := each.2
    obtain ⟨slot, hs⟩ := Option.isSome_iff_exists.1 slots.2
    have new : some slot ∉ ts.map slot? := fun hm =>
      nodup.2.2 _ hm _ (List.mem_singleton.2 hs.symm) rfl
    refine ⟨before ++ vs, List.forall_mem_append.2 ⟨hb.canonical, h.canonical⟩, ?_⟩
    rw [absorbAll_append, hb.run,
      absorbAll_rebuild h.canonical (fun v hv => h.slot?_of_mem hs hv) slots.1 new, h.run,
      alternatives_of_slot hs]

end

/-! ## Objects -/

section
variable {d : Detectors}

/-- A column comes to what its values come to. -/
theorem Realizes.column {vs : List Json} {t : Shape} (h : Realizes d vs t) (filled : vs ≠ [])
    {n : Nat} (hn : vs.length ≤ n) : Realizes d (Json.column n vs) t := by
  obtain ⟨first, rest, rfl⟩ := List.exists_cons_of_ne_nil filled
  have again : ∀ v ∈ List.replicate (n - (first :: rest).length) first, v ∈ first :: rest :=
    fun v hv => List.eq_of_mem_replicate hv ▸ List.mem_cons_self
  rw [Json.column_eq_append hn]
  constructor
  · exact List.forall_mem_append.2 ⟨h.canonical, fun v hv => h.canonical v (again v hv)⟩
  · rw [List.headD_cons, absorbAll_append_of_subset d h.canonical wellFormed_unknown again, h.run]

/-- A table realizes fields if each column realizes what is known about its key. -/
theorem realizes_rows {f : Fields Shape} (hf : f.Proper) {columns : String → List Json}
    (each : ∀ key t, f.get? key = some t → columns key ≠ [] ∧ Realizes d (columns key) t)
    {n : Nat} (long : ∀ key ∈ f.keys, (columns key).length ≤ n) :
    Realizes d ((Json.rows columns f.keys (Entries.keys f.required) n).map .object) (object f) := by
  have values : ∀ key ∈ f.keys, columns key ≠ [] ∧ ∀ v ∈ columns key, v.Canonical := by
    intro key h
    obtain ⟨t, ht⟩ := Option.isSome_iff_exists.1 (Fields.mem_keys_iff.1 h)
    exact ⟨(each key t ht).1, (each key t ht).2.canonical⟩
  have canonical : ∀ members ∈ Json.rows columns f.keys (Entries.keys f.required) n,
      (Json.object members).Canonical := by
    intro members hm
    rcases Json.mem_rows hm with ⟨place, rfl⟩ | rfl
    · exact Json.canonical_row (hf.required.union _) values place
    · refine Json.canonical_row hf.required (fun key h => ?_) _
      exact values key (Fields.mem_keys_of_mem_required h)
  refine ⟨List.forall_mem_map.2 canonical, ?_⟩
  rw [absorbAll_objects d (by simp [Json.rows]) canonical]
  refine congrArg object (Fields.ofObjects_rows hf fun key t hk => ?_)
  have h : key ∈ f.keys := Fields.mem_keys_iff.2 (by rw [hk]; rfl)
  have bound : (columns key).length ≤
      if key ∈ Entries.keys f.required then n + 2 else n + 1 := by
    have := long key h
    split <;> omega
  rw [Json.valuesOf_rows h, ((each key t hk).2.column (each key t hk).1 bound).run]

/-- Fields are realized if what is known about each key is. -/
theorem exists_realizes_object {f : Fields Shape} (hf : f.Proper)
    (each : ∀ key t, f.get? key = some t → t.isUnknown = false ∧ ∃ vs, Realizes d vs t) :
    ∃ vs, Realizes d vs (object f) := by
  have column : ∀ key, ∃ vs : List Json, ∀ t, f.get? key = some t → vs ≠ [] ∧ Realizes d vs t := by
    intro key
    cases hk : f.get? key with
    | none => exact ⟨[], by simp⟩
    | some t =>
      obtain ⟨known, vs, h⟩ := each key t hk
      refine ⟨vs, fun u hu => Option.some.inj hu ▸ ⟨?_, h⟩⟩
      rintro rfl
      rw [← h.run] at known
      cases known
  choose columns columnOf using column
  -- any number of rows will do that no column is longer than
  exact ⟨_, realizes_rows hf columnOf fun key h =>
    List.le_sum_of_mem (List.mem_map_of_mem (f := fun key => (columns key).length) h)⟩

end

/-! ## Trees -/

/-- The check passes no shape that values cannot come to, if they can come to its leaves. -/
theorem exists_realizes (d : Detectors) {t : Shape} (passes : t.check = none)
    (canonical : t.Canonical) (grounded : Grounded d t) : ∃ vs, Realizes d vs t := by
  have wellFormed : t.WellFormed := ⟨canonical, sound_of_check passes⟩
  clear passes canonical
  induction t using Shape.induct with
  | unknown => exact ⟨[], by simp, rfl⟩
  | boolean => exact ⟨[.bool true], by simp [Json.Canonical], rfl⟩
  | int range | float range =>
    obtain ⟨ns, -, h⟩ := (grounded_leaf rfl).1 grounded
    exact ⟨_, realizes_numbers h⟩
  | string format =>
    cases format with
    | none => exact ⟨_, d.detect_empty ▸ realizes_string ""⟩
    | some f =>
      obtain ⟨s, h⟩ := (grounded_leaf rfl).1 grounded
      exact ⟨_, h ▸ realizes_string s⟩
  | array items ih =>
    obtain ⟨vs, h⟩ := ih (grounded_array.1 grounded) (wellFormed_array.1 wellFormed)
    exact ⟨_, h.array⟩
  | nullable inner ih =>
    obtain ⟨once, known⟩ := wellFormed_nullable.1 wellFormed
    obtain ⟨vs, h⟩ := ih (grounded_nullable.1 grounded) known
    exact ⟨_, h.nullable once⟩
  | anyOf alternatives ih =>
    obtain ⟨-, nodup, each⟩ := wellFormed_anyOf.1 wellFormed
    rw [← rebuild_alternatives wellFormed.sound]
    exact exists_realizes_rebuild (fun t ht => (each t ht).1) nodup fun t ht =>
      ih t ht (grounded_anyOf.1 grounded t ht) (each t ht).2
  | object required optional ihr iho =>
    obtain ⟨proper, each⟩ := wellFormed_object.1 wellFormed
    obtain ⟨hr, ho⟩ := grounded_object.1 grounded
    refine exists_realizes_object proper fun key t ht => ⟨(each key t ht).1, ?_⟩
    rcases Fields.mem_of_get? ht with hm | hm
    · exact ihr _ hm (hr _ hm) (each key t ht).2
    · exact iho _ hm (ho _ hm) (each key t ht).2

/-- A required key with alternatives, a format among them, and an optional key. -/
theorem exists_realizes_mixed :
    let numbers : Shape := int ((Interval.single (.ofInt 1)).extend (.ofInt 2))
    let t := object ⟨[("a", anyOf [string (some .country), numbers])],
      [("b", array (nullable unknown))]⟩
    t.check = none ∧ t.Canonical ∧ Grounded .all t ∧ ∃ vs, Realizes .all vs t := by
  intro numbers t
  have passes : t.check = none := Option.isNone_iff_eq_none.1 (by decide +kernel)
  have canonical : t.Canonical := by
    simp [t, numbers, Shape.Canonical, CanonicalProperties, CanonicalAlternatives, Entries.Ordered,
      Entries.keys]
  have country : Grounded .all (string (some .country)) :=
    (grounded_leaf rfl).2 ⟨"AD", by decide⟩
  have range : Grounded .all numbers :=
    (grounded_leaf rfl).2 ⟨[.integer 1 (by decide), .integer 2 (by decide)], by simp, rfl⟩
  have nothing : Grounded .all unknown := (grounded_leaf rfl).2 trivial
  have grounded : Grounded .all t := by
    simp [t, grounded_object, grounded_anyOf, grounded_array, grounded_nullable, country, range,
      nothing]
  exact ⟨passes, canonical, grounded, exists_realizes .all passes canonical grounded⟩

/-! ## Trees that values come to -/

/-- A shape is grounded if its alternatives are. -/
theorem grounded_rebuild {d : Detectors} (null : Bool) {ts : List Shape}
    (h : ∀ t ∈ ts, Grounded d t) : Grounded d (rebuild null ts) := by
  have flat : Grounded d (ofAlternatives ts) := by
    rcases ts with _ | ⟨t, _ | ⟨u, ts⟩⟩
    · exact (grounded_leaf rfl).2 trivial
    · exact h t List.mem_cons_self
    · exact grounded_anyOf.2 h
  cases null with
  | false => exact flat
  | true => exact grounded_nullable.2 flat

theorem grounded_ofNumbers (d : Detectors) {ns : List Number} (h : ns ≠ []) :
    Grounded d (ofNumbers ns) := by
  have run := absorbAll_numbers d h
  rw [ofNumbers] at run ⊢
  split at run
  · next whole =>
    rw [if_pos whole]
    exact (grounded_leaf rfl).2 ⟨ns, h, run⟩
  · next whole =>
    rw [if_neg whole]
    exact (grounded_leaf rfl).2 ⟨ns, h, run⟩

theorem grounded_common (d : Detectors) {ss : List String} (h : ss ≠ []) :
    Grounded d (string (d.common ss)) := by
  rw [grounded_leaf rfl]
  cases hf : d.common ss with
  | none => trivial
  | some f =>
    obtain ⟨s, hs⟩ := List.exists_mem_of_ne_nil _ h
    exact ⟨s, (Detectors.common_eq_some_iff h).1 hf s hs⟩

theorem grounded_ofValues (d : Detectors) (vs : List Json) : Grounded d (ofValues d vs) := by
  -- on the nesting, since items and values under keys are lists of their own
  induction hn : Json.nestingItems vs using Nat.strongRecOn generalizing vs with
  | ind n ih =>
    subst hn
    rw [ofValues_eq]
    refine grounded_rebuild _ fun t ht => ?_
    obtain ⟨slot, here, rfl⟩ := List.mem_map.1 ht
    cases slot with
    | boolean => exact (grounded_leaf rfl).2 trivial
    | number => exact grounded_ofNumbers d fun h => Json.numbersOf_eq_nil.1 h here
    | string => exact grounded_common d fun h => Json.stringsOf_eq_nil.1 h here
    | array => exact grounded_array.2 (ih _ (Json.nestingItems_itemsOf_lt here) _ rfl)
    | object =>
      have inside := fun key => ih _ (Json.nestingItems_valuesOf_lt key here) _ rfl
      refine grounded_object.2 ⟨fun e he => ?_, fun e he => ?_⟩
      · obtain ⟨key, -, rfl⟩ := List.mem_map.1 he
        exact inside key
      · obtain ⟨key, -, rfl⟩ := List.mem_map.1 he
        exact inside key

/-- The check passes every tree that values come to, and values come to its leaves. -/
theorem Realizes.check_and_grounded {d : Detectors} {vs : List Json} {t : Shape}
    (h : Realizes d vs t) : t.check = none ∧ t.Canonical ∧ Grounded d t := by
  have wellFormed := wellFormed_absorbAll d h.canonical wellFormed_unknown
  have grounded := grounded_ofValues d vs
  rw [← absorbAll_of_nestingItems_le d (Nat.le_refl _) h.canonical, h.run] at grounded
  rw [h.run] at wellFormed
  exact ⟨check_of_sound wellFormed.sound, wellFormed.canonical, grounded⟩

end Shape

end JsonShape
