import Mathlib.Data.String.Basic
import JsonShape.Proofs.Json.Canonical
import JsonShape.Proofs.Shape.Fields

/-!
# Taking in values keeps shapes well-formed

`Shape.WellFormed` shapes keep all rules for shapes and have their keys in order. `wellFormed_absorb`:
taking in a value keeps that, by induction on the value; `wellFormed_absorbAll` is the same for a run.
No shape that has taken in a value is unknown.
-/

set_option autoImplicit false

namespace JsonShape

namespace Shape

/-! ## What a slot holds -/

/-- What is known about the items, if the shape is one of arrays. -/
def items? : Shape → Option Shape
  | array s => some s
  | _ => none

/-- What is known about the keys, if the shape is one of objects. -/
def fields? : Shape → Option (Fields Shape)
  | object f => some f
  | _ => none

theorem grow_array (d : Detectors) (items : List Json) (t : Option Shape) :
    grow d (.array items) t = array (absorbItems d items ((t.bind items?).getD unknown)) := by
  cases t with
  | none => rfl
  | some t => cases t <;> rfl

theorem grow_object (d : Detectors) (members : List (String × Json)) (t : Option Shape) :
    grow d (.object members) t = object (takeIn d members (t.bind fields?)) := by
  cases t with
  | none => rfl
  | some t => cases t <;> rfl

/-- What is known about the items of arrays. -/
def knownItems (t : Shape) : Shape := ((t.part? .array).bind items?).getD unknown

/-- What is known about the keys of objects. -/
def knownFields (t : Shape) : Option (Fields Shape) := (t.part? .object).bind fields?

theorem grow_knownItems (d : Detectors) (items : List Json) (t : Shape) :
    grow d (.array items) (t.part? .array) = array (absorbItems d items t.knownItems) :=
  grow_array d items _

theorem grow_knownFields (d : Detectors) (members : List (String × Json)) (t : Shape) :
    grow d (.object members) (t.part? .object) = object (takeIn d members t.knownFields) :=
  grow_object d members _

theorem part?_absorb_array (d : Detectors) (items : List Json) (t : Shape) :
    (absorb d (.array items) t).part? .array =
      some (array (absorbItems d items t.knownItems)) := by
  rw [part?_absorb_self d rfl, grow_knownItems]

theorem part?_absorb_object (d : Detectors) (members : List (String × Json)) (t : Shape) :
    (absorb d (.object members) t).part? .object =
      some (object (takeIn d members t.knownFields)) := by
  rw [part?_absorb_self d rfl, grow_knownFields]

theorem knownItems_of_part? {t s : Shape} (h : t.part? .array = some (array s)) :
    t.knownItems = s := by
  rw [knownItems, h]
  rfl

theorem knownFields_of_part? {t : Shape} {f : Fields Shape} (h : t.part? .object = some (object f)) :
    t.knownFields = some f := by
  rw [knownFields, h]
  rfl

theorem part?_of_mem_knownFields {t : Shape} {f : Fields Shape} (h : f ∈ t.knownFields) :
    t.part? .object = some (object f) := by
  obtain ⟨u, hu, huf⟩ := Option.bind_eq_some_iff.1 h
  cases u <;> simp only [fields?, Option.some.injEq, reduceCtorEq] at huf
  subst huf
  exact hu

theorem isUnknown_absorb (d : Detectors) (v : Json) (t : Shape) :
    (absorb d v t).isUnknown = false := by
  cases hs : v.slot? with
  | none =>
    rw [Json.slot?_eq_none_iff.1 hs]
    have := isNullable_absorb_null d t
    cases h : absorb d .null t <;> simp_all [isUnknown, isNullable]
  | some slot =>
    have := part?_absorb_self d hs t
    cases h : absorb d v t with
    | unknown => rw [h] at this; cases this
    | _ => rfl

/-! ## Well-formed shapes -/

/-- All rules for shapes are kept, and keys are in order. -/
structure WellFormed (t : Shape) : Prop where
  canonical : t.Canonical
  sound : t.Sound

theorem wellFormed_unknown : unknown.WellFormed := ⟨trivial, trivial⟩

theorem wellFormed_int {range : Interval} : (int range).WellFormed ↔ range.Valid :=
  ⟨fun h => h.sound, fun h => ⟨trivial, h⟩⟩

theorem wellFormed_float {range : Interval} : (float range).WellFormed ↔ range.Valid :=
  ⟨fun h => h.sound, fun h => ⟨trivial, h⟩⟩

theorem wellFormed_array {s : Shape} : (array s).WellFormed ↔ s.WellFormed :=
  ⟨fun h => ⟨h.canonical, h.sound⟩, fun h => ⟨h.canonical, h.sound⟩⟩

theorem wellFormed_object {f : Fields Shape} : (object f).WellFormed ↔
    f.Proper ∧ ∀ key t, f.get? key = some t → t.isUnknown = false ∧ t.WellFormed := by
  obtain ⟨required, optional⟩ := f
  constructor
  · rintro ⟨⟨⟨hr, ho⟩, hcr, hco⟩, hapart, hsr, hso⟩
    have proper : (Fields.mk required optional).Proper := ⟨hr, ho, hapart⟩
    refine ⟨proper, (Fields.forall_get?_iff proper _).2 ⟨fun e he => ?_, fun e he => ?_⟩⟩
    · have := soundProperties_iff.1 hsr e he
      exact ⟨this.1, canonicalProperties_iff.1 hcr e he, this.2⟩
    · have := soundProperties_iff.1 hso e he
      exact ⟨this.1, canonicalProperties_iff.1 hco e he, this.2⟩
  · rintro ⟨proper, h⟩
    obtain ⟨hr, ho⟩ := (Fields.forall_get?_iff proper _).1 h
    exact ⟨⟨⟨proper.required, proper.optional⟩,
        canonicalProperties_iff.2 fun e he => (hr e he).2.canonical,
        canonicalProperties_iff.2 fun e he => (ho e he).2.canonical⟩,
      proper.apart,
      soundProperties_iff.2 fun e he => ⟨(hr e he).1, (hr e he).2.sound⟩,
      soundProperties_iff.2 fun e he => ⟨(ho e he).1, (ho e he).2.sound⟩⟩

theorem wellFormed_nullable {s : Shape} :
    (nullable s).WellFormed ↔ s.isNullable = false ∧ s.WellFormed :=
  ⟨fun h => ⟨h.sound.1, h.canonical, h.sound.2⟩, fun h => ⟨h.2.canonical, h.1, h.2.sound⟩⟩

theorem wellFormed_anyOf {ts : List Shape} : (anyOf ts).WellFormed ↔
    2 ≤ ts.length ∧ (ts.map slot?).Nodup ∧ ∀ t ∈ ts, t.slot?.isSome = true ∧ t.WellFormed := by
  constructor
  · rintro ⟨canonical, many, nodup, sound⟩
    refine ⟨many, nodup, fun t ht => ?_⟩
    obtain ⟨hslot, hs⟩ := soundAlternatives_iff.1 sound t ht
    exact ⟨hslot, canonicalAlternatives_iff.1 canonical t ht, hs⟩
  · rintro ⟨many, nodup, each⟩
    exact ⟨canonicalAlternatives_iff.2 fun t ht => (each t ht).2.canonical, many, nodup,
      soundAlternatives_iff.2 fun t ht => ⟨(each t ht).1, (each t ht).2.sound⟩⟩

theorem canonical_alternatives : ∀ t : Shape, t.Canonical → ∀ u ∈ t.alternatives, u.Canonical
  | nullable inner, h => canonical_alternatives inner h
  | anyOf _, h => canonicalAlternatives_iff.1 h
  | unknown, _ => by simp [alternatives]
  | boolean, h | int _, h | float _, h | string _, h | array _, h | object _, h => by
    simpa [alternatives] using h

theorem canonical_rebuild (null : Bool) {ts : List Shape} (h : ∀ t ∈ ts, t.Canonical) :
    (rebuild null ts).Canonical := by
  have flat : (ofAlternatives ts).Canonical := by
    match ts, h with
    | [], _ => trivial
    | [t], h => exact h t List.mem_cons_self
    | t :: u :: ts, h => exact canonicalAlternatives_iff.2 h
  cases null <;> exact flat

theorem WellFormed.part? {t : Shape} (h : t.WellFormed) {slot : Slot} {u : Shape}
    (hu : t.part? slot = some u) : u.WellFormed :=
  ⟨canonical_alternatives t h.canonical u (mem_of_partOf? hu),
    (parts_alternatives t h.sound).sound u (mem_of_partOf? hu)⟩

theorem WellFormed.knownItems {t : Shape} (h : t.WellFormed) : t.knownItems.WellFormed := by
  unfold Shape.knownItems
  cases hp : t.part? .array with
  | none => exact wellFormed_unknown
  | some u =>
    cases u with
    | array s => exact wellFormed_array.1 (h.part? hp)
    | _ => exact wellFormed_unknown

theorem WellFormed.knownFields {t : Shape} (h : t.WellFormed) {f : Fields Shape}
    (hf : f ∈ t.knownFields) :
    f.Proper ∧ ∀ key u, f.get? key = some u → u.isUnknown = false ∧ u.WellFormed :=
  wellFormed_object.1 (h.part? (part?_of_mem_knownFields hf))

theorem WellFormed.known? {t : Shape} (h : t.WellFormed) {key : String} {u : Shape}
    (hu : known? key t.knownFields = some u) : u.isUnknown = false ∧ u.WellFormed := by
  obtain ⟨f, hf, hg⟩ := Option.bind_eq_some_iff.1 hu
  exact (h.knownFields hf).2 key u hg

theorem WellFormed.known {t : Shape} (h : t.WellFormed) (key : String) :
    ((Shape.known? key t.knownFields).getD unknown).WellFormed := by
  cases hk : Shape.known? key t.knownFields with
  | none => exact wellFormed_unknown
  | some u => exact (h.known? hk).2

/-- Taking in a value keeps a shape well-formed if it keeps the shape of the value's slot so. -/
theorem wellFormed_absorb_of_grow (d : Detectors) {v : Json} {slot : Slot}
    (hs : v.slot? = some slot) {t : Shape} (ht : t.WellFormed)
    (hg : (grow d v (t.part? slot)).WellFormed) : (absorb d v t).WellFormed := by
  have parts := parts_alternatives t ht.sound
  have grown : ∀ u ∈ growFirst slot (grow d v) t.alternatives,
      u.slot?.isSome = true ∧ u.WellFormed := by
    intro u hu
    rcases mem_growFirst hu with hm | rfl
    · exact ⟨parts.slots u hm, canonical_alternatives t ht.canonical u hm, parts.sound u hm⟩
    · exact ⟨by rw [slot?_grow d hs]; rfl, hg⟩
  have nodup : ((growFirst slot (grow d v) t.alternatives).map slot?).Nodup := by
    rw [map_slot?_growFirst (slot?_grow d hs)]
    split
    · exact parts.nodup
    · next hn =>
      refine List.nodup_append.2 ⟨parts.nodup, by simp, fun a ha b hb he => hn ?_⟩
      rwa [← List.mem_singleton.1 hb, ← he]
  rw [← rebuild_alternatives ht.sound, absorb_rebuild d hs _ parts.slots]
  exact ⟨canonical_rebuild _ fun u hu => (grown u hu).2.canonical,
    sound_rebuild _ ⟨fun u hu => (grown u hu).1, nodup, fun u hu => (grown u hu).2.sound⟩⟩

theorem wellFormed_absorb_null (d : Detectors) {t : Shape} (ht : t.WellFormed) :
    (absorb d .null t).WellFormed := by
  have parts := parts_alternatives t ht.sound
  rw [← rebuild_alternatives ht.sound, absorb_null_rebuild d _ parts.slots]
  exact ⟨canonical_rebuild _ (canonical_alternatives t ht.canonical), sound_rebuild _ parts⟩

theorem wellFormed_growNumber (n : Number) {t : Option Shape} (h : ∀ u ∈ t, u.WellFormed) :
    (growNumber n t).WellFormed := by
  have hn := n.isFinite_toDouble
  unfold growNumber
  split
  · next range =>
    have hr := wellFormed_int.1 (h _ rfl)
    split
    · exact wellFormed_int.2 (hr.extend hn)
    · exact wellFormed_float.2 (hr.extend hn)
  · next range => exact wellFormed_float.2 ((wellFormed_float.1 (h _ rfl)).extend hn)
  · split
    · exact wellFormed_int.2 (Interval.valid_single hn)
    · exact wellFormed_float.2 (Interval.valid_single hn)

/-- What taking in each item keeps, taking in all of them keeps. -/
theorem absorbItems_keeps (d : Detectors) {P : Shape → Prop} {items : List Json}
    (each : ∀ v ∈ items, ∀ t, P t → P (absorb d v t)) {t : Shape} (h : P t) :
    P (absorbItems d items t) := by
  induction items generalizing t with
  | nil => exact h
  | cons v rest ih =>
    rw [List.forall_mem_cons] at each
    exact ih each.2 (each.1 t h)

/-- A well-formed shape stays well-formed when a value is taken in. -/
theorem wellFormed_absorb (d : Detectors) (v : Json) {t : Shape} (hv : v.Canonical)
    (ht : t.WellFormed) : (absorb d v t).WellFormed := by
  induction v using Json.induct generalizing t with
  | null => exact wellFormed_absorb_null d ht
  | bool b => exact wellFormed_absorb_of_grow d rfl ht ⟨trivial, trivial⟩
  | number n =>
    exact wellFormed_absorb_of_grow d rfl ht (wellFormed_growNumber n fun _ hu => ht.part? hu)
  | string s =>
    refine wellFormed_absorb_of_grow d rfl ht ?_
    have hs := slot?_grow d (v := .string s) rfl (t.part? .string)
    cases hg : grow d (.string s) (t.part? .string) <;> rw [hg] at hs <;> cases hs
    exact ⟨trivial, trivial⟩
  | array items ih =>
    refine wellFormed_absorb_of_grow d rfl ht ?_
    rw [grow_knownItems, wellFormed_array]
    exact absorbItems_keeps d (fun v hm _ => ih v hm (hv.items hm)) ht.knownItems
  | object members ih =>
    refine wellFormed_absorb_of_grow d rfl ht ?_
    have proper : ∀ f ∈ t.knownFields, f.Proper := fun f hf => (ht.knownFields hf).1
    rw [grow_knownFields, wellFormed_object]
    refine ⟨proper_takeIn d hv.1 proper, fun key u hu => ?_⟩
    rw [get?_takeIn d hv.1 proper] at hu
    split at hu
    · next w hw =>
      obtain rfl := Option.some.inj hu
      have hm := Entries.mem_of_get? hw
      exact ⟨isUnknown_absorb d w _, ih _ hm (hv.members hm) (ht.known key)⟩
    · exact ht.known? hu

theorem absorbAll_append (d : Detectors) (vs ws : List Json) (t : Shape) :
    absorbAll d (vs ++ ws) t = absorbAll d ws (absorbAll d vs t) := List.foldl_append

theorem absorbItems_eq_absorbAll (d : Detectors) (items : List Json) (t : Shape) :
    absorbItems d items t = absorbAll d items t := by
  induction items generalizing t with
  | nil => rfl
  | cons v rest ih => exact ih (absorb d v t)

theorem wellFormed_absorbAll (d : Detectors) {values : List Json}
    (hv : ∀ v ∈ values, v.Canonical) {t : Shape} (ht : t.WellFormed) :
    (absorbAll d values t).WellFormed := by
  rw [← absorbItems_eq_absorbAll]
  exact absorbItems_keeps d (fun v hm _ => wellFormed_absorb d v (hv v hm)) ht

end Shape

end JsonShape
