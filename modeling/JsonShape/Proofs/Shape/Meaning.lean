import Mathlib.Data.String.Basic
import JsonShape.Proofs.Interval.Spanning
import JsonShape.Proofs.Shape.Groups
import JsonShape.Proofs.Shape.Preservation

/-!
# What a run means

`Shape.ofValues` says what the shape of a list of values is without going through the list value by
value: the values of each slot are a group, with the items of all arrays, and the values of each key
of all objects, in one list of their own. `absorbAll_eq_ofValues`: taking in the values one after
another comes to the same. The induction is on how deep the values nest, and within that on the list,
from its end (`ofValues_append`).
-/

set_option autoImplicit false

namespace JsonShape

/-! ## The shape of a list -/

/-- The format that every one of some strings is detected to have. -/
def Detectors.common (d : Detectors) (ss : List String) : Option TextFormat :=
  TextFormat.all.find? fun f => ss.all fun s => d.detect s = some f

theorem Detectors.common_eq_some_iff {d : Detectors} {ss : List String} (h : ss ≠ [])
    {f : TextFormat} : d.common ss = some f ↔ ∀ s ∈ ss, d.detect s = some f := by
  constructor
  · intro hf
    simpa using List.find?_some hf
  · intro hf
    obtain ⟨s, hs⟩ := List.exists_mem_of_ne_nil ss h
    rw [Detectors.common]
    cases hc : TextFormat.all.find? fun f => ss.all fun s => decide (d.detect s = some f) with
    | none =>
      have := List.find?_eq_none.1 hc f (by cases f <;> decide)
      simp_all
    | some g =>
      have := List.find?_some hc
      rw [List.all_eq_true] at this
      have := this s hs
      simp_all

namespace Shape

open Json

/-- Numbers are integers if all of them are. -/
def ofNumbers (ns : List Number) : Shape :=
  if ns.all Number.isIntegral then int (.spanning (ns.map Number.toDouble))
  else float (.spanning (ns.map Number.toDouble))

/-- The shape of values: null apart, one alternative for each slot that they are of. -/
def ofValues (d : Detectors) (vs : List Json) : Shape :=
  rebuild (vs.any isNull) <| (slotsOf vs).attach.map fun ⟨slot, here⟩ =>
    match slot, here with
    | .boolean, _ => boolean
    | .number, _ => ofNumbers (numbersOf vs)
    | .string, _ => string (d.common (stringsOf vs))
    | .array, _ => array (ofValues d (itemsOf vs))
    | .object, _ =>
      object (.ofObjects (objectsOf vs) fun key => ofValues d (valuesOf key (objectsOf vs)))
termination_by nestingItems vs
decreasing_by
  · exact nestingItems_itemsOf_lt ‹_›
  · exact nestingItems_valuesOf_lt _ ‹_›

/-- The shape of the values of one slot. -/
def group (d : Detectors) (vs : List Json) : Slot → Shape
  | .boolean => boolean
  | .number => ofNumbers (numbersOf vs)
  | .string => string (d.common (stringsOf vs))
  | .array => array (ofValues d (itemsOf vs))
  | .object =>
    object (.ofObjects (objectsOf vs) fun key => ofValues d (valuesOf key (objectsOf vs)))

theorem ofValues_eq (d : Detectors) (vs : List Json) :
    ofValues d vs = rebuild (vs.any isNull) ((slotsOf vs).map (group d vs)) := by
  have groups : (slotsOf vs).map (group d vs) =
      (slotsOf vs).attach.map fun slot => group d vs slot.1 := List.attach_map_val.symm
  rw [ofValues, groups]
  congr 2
  funext ⟨slot, here⟩
  cases slot <;> rfl

theorem ofValues_nil (d : Detectors) : ofValues d [] = unknown := by
  rw [ofValues_eq]
  rfl

/-! ## Leaves with one more value -/

theorem ofNumbers_append {ns : List Number} (n : Number) :
    ofNumbers (ns ++ [n]) = growNumber n (if ns = [] then none else some (ofNumbers ns)) := by
  have finite : ∀ x ∈ ns.map Number.toDouble, x.isFinite = true := by
    intro x hx
    obtain ⟨m, -, rfl⟩ := List.mem_map.1 hx
    exact m.isFinite_toDouble
  have hn := n.isFinite_toDouble
  by_cases h : ns = []
  · subst h
    rw [if_pos rfl, ofNumbers, List.nil_append, List.map_singleton,
      Interval.spanning_singleton hn]
    simp [growNumber]
  · have span := Interval.spanning_append (by simpa using h) finite hn
    rw [if_neg h, ofNumbers, List.map_append, List.map_singleton, span, ofNumbers, List.all_append]
    cases ns.all Number.isIntegral <;> cases hi : n.isIntegral <;> simp [growNumber, hi]

theorem common_append {d : Detectors} {ss : List String} (s : String) :
    string (d.common (ss ++ [s])) =
      growString (d.detect s) (if ss = [] then none else some (string (d.common ss))) := by
  have hne : ss ++ [s] ≠ [] := by simp
  by_cases h : ss = []
  · subst h
    have single : d.common [s] = d.detect s := by
      ext f
      rw [Detectors.common_eq_some_iff (by simp), List.forall_mem_singleton]
    rw [if_pos rfl, List.nil_append, single]
    simp [growString]
  · have both : d.common (ss ++ [s]) = if d.common ss = d.detect s then d.common ss else none := by
      ext f
      rw [Detectors.common_eq_some_iff hne, List.forall_mem_append, ← Detectors.common_eq_some_iff h,
        List.forall_mem_singleton]
      split
      · next he => rw [he, and_self_iff]
      · next he =>
        simp only [reduceCtorEq, iff_false, not_and]
        intro hf hs
        exact he (hf.trans hs.symm)
    rw [if_neg h, both, growString]

/-! ## Groups with one more value -/

/-- Growing one of the shapes that slots have. -/
theorem growFirst_map {k : Slot → Shape} (hk : ∀ s, (k s).slot? = some s) (slot : Slot)
    (f : Option Shape → Shape) {slots : List Slot} (nodup : slots.Nodup) :
    growFirst slot f (slots.map k) =
      (if slot ∈ slots then slots else slots ++ [slot]).map fun s =>
        if s = slot then f (if slot ∈ slots then some (k slot) else none) else k s := by
  induction slots with
  | nil => simp [growFirst]
  | cons t slots ih =>
    rw [List.nodup_cons] at nodup
    rw [List.map_cons, growFirst, hk]
    by_cases ht : t = slot
    · subst ht
      simp only [List.mem_cons_self, if_true, List.map_cons, List.cons.injEq, true_and]
      refine List.map_congr_left fun s hs => (if_neg ?_).symm
      rintro rfl
      exact nodup.1 hs
    · have hne : ¬ slot = t := fun he => ht he.symm
      simp only [Option.some.injEq, ht, if_false, ih nodup.2, List.mem_cons, hne, false_or]
      split <;> simp [ht]

theorem slot?_group (d : Detectors) (vs : List Json) (slot : Slot) :
    (group d vs slot).slot? = some slot := by
  cases slot with
  | number => rw [group, ofNumbers]; split <;> rfl
  | _ => rfl

/-- A value does not change the groups of other slots. -/
theorem group_append_of_ne (d : Detectors) (vs : List Json) {v : Json} {slot : Slot}
    (h : v.slot? ≠ some slot) : group d (vs ++ [v]) slot = group d vs slot := by
  have numbers : slot = .number → numbersOf (vs ++ [v]) = numbersOf vs := by
    rintro rfl
    rw [numbersOf, List.filterMap_append]
    cases v <;> first | exact List.append_nil _ | exact absurd rfl h
  have strings : slot = .string → stringsOf (vs ++ [v]) = stringsOf vs := by
    rintro rfl
    rw [stringsOf, List.filterMap_append]
    cases v <;> first | exact List.append_nil _ | exact absurd rfl h
  have items : slot = .array → itemsOf (vs ++ [v]) = itemsOf vs := by
    rintro rfl
    rw [itemsOf, List.flatMap_append]
    cases v <;> first | exact List.append_nil _ | exact absurd rfl h
  have objects : slot = .object → objectsOf (vs ++ [v]) = objectsOf vs := by
    rintro rfl
    rw [objectsOf, List.filterMap_append]
    cases v <;> first | exact List.append_nil _ | exact absurd rfl h
  cases slot with
  | boolean => rfl
  | number => rw [group, numbers rfl, group]
  | string => rw [group, strings rfl, group]
  | array => rw [group, items rfl, group]
  | object => rw [group, objects rfl, group]

/-- The groups that some of the values are of. -/
def group? (d : Detectors) (vs : List Json) (slot : Slot) : Option Shape :=
  if slot ∈ slotsOf vs then some (group d vs slot) else none

theorem items?_group? (d : Detectors) (vs : List Json) :
    ((group? d vs .array).bind items?).getD unknown = ofValues d (itemsOf vs) := by
  unfold group?
  split
  · rfl
  · next h => rw [itemsOf_eq_nil h, ofValues_nil]; rfl

/-- What is known about a key comes from the values under it. -/
theorem known?_group? (d : Detectors) (vs : List Json) (key : String) :
    known? key ((group? d vs .object).bind fields?) =
      if (objectsOf vs).any (Entries.has key) then
        some (ofValues d (valuesOf key (objectsOf vs)))
      else none := by
  unfold group?
  split
  · exact Fields.get?_ofObjects key
  · next h => rw [objectsOf_eq_nil h]; rfl

theorem known_group? (d : Detectors) (vs : List Json) (key : String) :
    (known? key ((group? d vs .object).bind fields?)).getD unknown =
      ofValues d (valuesOf key (objectsOf vs)) := by
  rw [known?_group?]
  split
  · rfl
  · next h => rw [valuesOf_eq_nil (by simpa using h), ofValues_nil]; rfl

theorem all_isRequired_group? (d : Detectors) (vs : List Json) (key : String) :
    (((group? d vs .object).bind fields?).all fun f => f.isRequired key) =
      (objectsOf vs).all (Entries.has key) := by
  unfold group?
  split
  · next h =>
    obtain ⟨v, hv, hs⟩ := mem_slotsOf.1 h
    cases v <;> cases hs
    next members =>
    have hm := mem_objectsOf.2 hv
    refine (Fields.isRequired_ofObjects key).trans ?_
    cases hall : (objectsOf vs).all (Entries.has key) with
    | false => rw [Bool.and_false]
    | true =>
      rw [Bool.and_true, List.any_eq_true]
      exact ⟨members, hm, List.all_eq_true.1 hall members hm⟩
  · next h => rw [objectsOf_eq_nil h]; rfl

section

variable {d : Detectors} {vs : List Json} {v : Json}
  (canonical : ∀ w ∈ vs ++ [v], w.Canonical)
  -- what is claimed of the whole list holds of lists that nest less deep
  (inner : ∀ ws us : List Json, nestingItems (ws ++ us) < nestingItems (vs ++ [v]) →
    (∀ w ∈ ws ++ us, w.Canonical) → absorbAll d us (ofValues d ws) = ofValues d (ws ++ us))
include canonical inner

theorem grow_group?_array {items : List Json} (hv : v = .array items) :
    grow d v (group? d vs .array) = group d (vs ++ [v]) .array := by
  have whole : itemsOf (vs ++ [v]) = itemsOf vs ++ items := by
    rw [hv, itemsOf, List.flatMap_append]
    exact congrArg _ (List.append_nil _)
  have less : nestingItems (itemsOf vs ++ items) < nestingItems (vs ++ [v]) := by
    rw [← whole]
    exact nestingItems_itemsOf_lt (mem_slotsOf.2 ⟨v, by simp, by rw [hv]; rfl⟩)
  have itemsCanonical : ∀ w ∈ itemsOf vs ++ items, w.Canonical := by
    rw [← whole]
    intro w hw
    obtain ⟨more, hm, hw⟩ := mem_itemsOf.1 hw
    exact canonicalItems_iff.1 (canonical _ hm) w hw
  rw [hv, grow_array, items?_group?, absorbItems_eq_absorbAll, inner _ _ less itemsCanonical,
    ← hv, ← whole, group]

theorem grow_group?_object {members : Entries Json} (hv : v = .object members) :
    grow d v (group? d vs .object) = group d (vs ++ [v]) .object := by
  have whole : objectsOf (vs ++ [v]) = objectsOf vs ++ [members] := by
    rw [hv, objectsOf, List.filterMap_append]
    rfl
  have ordered : Entries.Ordered members := by
    have := canonical v (by simp)
    rw [hv] at this
    exact this.1
  have proper : ∀ f ∈ (group? d vs .object).bind fields?, f.Proper := by
    intro f hf
    unfold group? at hf
    split at hf
    · cases hf; exact Fields.ofObjects_proper
    · cases hf
  rw [hv, grow_object, ← hv, group]
  refine congrArg object (Fields.ext_of_proper (proper_takeIn d ordered proper)
    Fields.ofObjects_proper (fun key => ?_) fun key => ?_)
  · have values : valuesOf key (objectsOf (vs ++ [v])) =
        valuesOf key (objectsOf vs) ++ (Entries.get? key members).toList := by
      rw [whole, valuesOf, List.filterMap_append]
      cases hk : Entries.get? key members <;> simp [valuesOf, hk]
    rw [get?_takeIn d ordered proper, Fields.get?_ofObjects, known_group?, known?_group?, values,
      whole, List.any_append]
    cases hk : Entries.get? key members with
    | none => simp [Entries.has, hk]
    | some w =>
      rw [hk, Option.toList_some] at values
      have less : nestingItems (valuesOf key (objectsOf vs) ++ [w]) < nestingItems (vs ++ [v]) := by
        rw [← values]
        exact nestingItems_valuesOf_lt key (mem_slotsOf.2 ⟨v, by simp, by rw [hv]; rfl⟩)
      have valuesCanonical : ∀ u ∈ valuesOf key (objectsOf vs) ++ [w], u.Canonical := by
        rw [← values]
        intro u hu
        obtain ⟨more, ho, hm⟩ := mem_valuesOf hu
        exact canonicalMembers_iff.1 (canonical _ (mem_objectsOf.1 ho)).2 _ hm
      have := inner _ _ less valuesCanonical
      simp only [absorbAll, List.foldl_cons, List.foldl_nil] at this
      simp [Entries.has, hk, this]
  · rw [isRequired_takeIn, all_isRequired_group?, Fields.isRequired_ofObjects, whole,
      List.any_append, List.all_append]
    simp only [List.any_cons, List.any_nil, List.all_cons, List.all_nil, Bool.or_false,
      Bool.and_true]
    cases Entries.has key members <;> simp

/-- The group of a value's slot takes it in. -/
theorem grow_group? {slot : Slot} (hs : v.slot? = some slot) :
    grow d v (group? d vs slot) = group d (vs ++ [v]) slot := by
  cases hv : v with
  | null => rw [hv] at hs; cases hs
  | bool b => rw [hv] at hs; cases hs; rfl
  | number n =>
    rw [hv] at hs
    cases hs
    have whole : numbersOf (vs ++ [.number n]) = numbersOf vs ++ [n] := List.filterMap_append
    rw [group, whole, ofNumbers_append]
    simp only [numbersOf_eq_nil, ite_not]
    rfl
  | string s =>
    rw [hv] at hs
    cases hs
    have whole : stringsOf (vs ++ [.string s]) = stringsOf vs ++ [s] := List.filterMap_append
    rw [group, whole, common_append]
    simp only [stringsOf_eq_nil, ite_not]
    rfl
  | array items =>
    have := grow_group?_array canonical inner hv
    rw [hv] at hs this
    cases hs
    exact this
  | object members =>
    have := grow_group?_object canonical inner hv
    rw [hv] at hs this
    cases hs
    exact this

/-- One more value is taken in by the shape of the others. -/
theorem ofValues_append : absorb d v (ofValues d vs) = ofValues d (vs ++ [v]) := by
  have slots : ∀ t ∈ (slotsOf vs).map (group d vs), t.slot?.isSome = true := by
    intro t ht
    obtain ⟨slot, -, rfl⟩ := List.mem_map.1 ht
    rw [slot?_group]
    rfl
  rw [ofValues_eq, ofValues_eq, List.any_append]
  cases hs : v.slot? with
  | none =>
    have hv := Json.slot?_eq_none_iff.1 hs
    have same : (slotsOf vs).map (group d (vs ++ [v])) = (slotsOf vs).map (group d vs) :=
      List.map_congr_left fun slot _ => group_append_of_ne d vs (by rw [hs]; simp)
    rw [hv] at same ⊢
    rw [absorb_null_rebuild d _ slots, slotsOf_append_null, same]
    simp [isNull]
  | some slot =>
    have notNull : v.isNull = false := by cases v <;> first | rfl | cases hs
    have grown := growFirst_map (slot?_group d vs) slot (grow d v) (nodup_slotsOf vs)
    rw [absorb_rebuild d hs _ slots, grown, slotsOf_append hs, List.any_cons, notNull,
      List.any_nil, Bool.or_false, Bool.or_false]
    congr 1
    refine List.map_congr_left fun s _ => ?_
    split
    · next he => rw [he]; exact grow_group? canonical inner hs
    · next hne =>
      refine (group_append_of_ne d vs ?_).symm
      rw [hs]
      exact fun he => hne (Option.some.inj he).symm

end

/-! ## Runs -/

/-- Values that do not nest deeper than `n`, taken in one after another, come to the shape of all of
them. -/
theorem absorbAll_of_nestingItems_le (d : Detectors) {n : Nat} {vs : List Json}
    (hn : nestingItems vs ≤ n) (hv : ∀ v ∈ vs, v.Canonical) :
    absorbAll d vs unknown = ofValues d vs := by
  -- on the nesting for items and values of keys, and for one nesting on the list, from its end
  induction n using Nat.strongRecOn generalizing vs with
  | ind n outer =>
    induction vs using List.reverseRecOn with
    | nil => rw [ofValues_nil]; rfl
    | append_singleton vs v ih =>
      have before : nestingItems vs ≤ n :=
        nestingItems_le_iff.2 fun w hw => nestingItems_le_iff.1 hn w (by simp [hw])
      have inner : ∀ ws us : List Json, nestingItems (ws ++ us) < nestingItems (vs ++ [v]) →
          (∀ w ∈ ws ++ us, w.Canonical) → absorbAll d us (ofValues d ws) = ofValues d (ws ++ us) := by
        intro ws us less canonical
        have part : nestingItems ws ≤ nestingItems (ws ++ us) :=
          nestingItems_le_iff.2 fun w hw => nesting_le_of_mem (by simp [hw])
        rw [← outer (nestingItems (ws ++ us)) (by omega) (Nat.le_refl _) canonical,
          ← outer (nestingItems (ws ++ us)) (by omega) part (fun w hw => canonical w (by simp [hw])),
          absorbAll_append]
      rw [absorbAll_append, ih before (fun w hw => hv w (by simp [hw]))]
      exact ofValues_append hv inner

/-- Values taken in one after another come to the shape of all of them. -/
theorem absorbAll_eq_ofValues (d : Detectors) (vs : List Json) (hv : ∀ v ∈ vs, v.Canonical) :
    absorbAll d vs unknown = ofValues d vs :=
  absorbAll_of_nestingItems_le d (Nat.le_refl (nestingItems vs)) hv

/-- Null, an array and an object, one after another. -/
theorem absorbAll_eq_ofValues_mixed :
    (∀ v ∈ [Json.null, .array [.null], .object [("a", .bool true)]], v.Canonical) ∧
    absorbAll .none [.null, .array [.null], .object [("a", .bool true)]] unknown =
      ofValues .none [.null, .array [.null], .object [("a", .bool true)]] ∧
    ofValues .none [.null, .array [.null], .object [("a", .bool true)]] =
      nullable (anyOf [array (nullable unknown), object ⟨[("a", boolean)], []⟩]) := by
  have canonical :
      ∀ v ∈ [Json.null, .array [.null], .object [("a", .bool true)]], v.Canonical := by
    simp [Json.Canonical, Json.CanonicalItems, Json.CanonicalMembers, Entries.Ordered,
      Entries.keys]
  have run := absorbAll_eq_ofValues .none _ canonical
  exact ⟨canonical, run, run.symm.trans rfl⟩

/-! ## Runs of one slot -/

/-- Numbers taken in one after another come to the shape of all of them. -/
theorem absorbAll_numbers (d : Detectors) {ns : List Number} (h : ns ≠ []) :
    absorbAll d (ns.map .number) unknown = ofNumbers ns := by
  induction ns using List.reverseRecOn with
  | nil => exact absurd rfl h
  | append_singleton ns n ih =>
    rw [List.map_append, absorbAll_append, ofNumbers_append]
    by_cases first : ns = []
    · rw [first]
      rfl
    · rw [if_neg first, ih first]
      show absorb d (.number n) (ofNumbers ns) = growNumber n (some (ofNumbers ns))
      unfold ofNumbers
      split <;> rfl

/-- Objects come to what their values come to key by key. -/
theorem absorbAll_objects (d : Detectors) {objects : List (Entries Json)} (filled : objects ≠ [])
    (canonical : ∀ members ∈ objects, (Json.object members).Canonical) :
    absorbAll d (objects.map Json.object) unknown =
      object (.ofObjects objects fun key => absorbAll d (valuesOf key objects) unknown) := by
  have values : ∀ key, ∀ v ∈ valuesOf key objects, v.Canonical := by
    intro key v hv
    obtain ⟨members, hm, hv⟩ := mem_valuesOf hv
    exact (canonical members hm).members hv
  have slots : slotsOf (objects.map Json.object) = [.object] := by
    obtain ⟨first, rest, rfl⟩ := List.exists_cons_of_ne_nil filled
    have others : ((rest.map Json.object).filterMap Json.slot?).filter (fun s => !s == Slot.object) =
        [] := by
      simp [Json.slot?, List.filterMap_map, List.filter_eq_nil_iff]
    show (Slot.object :: (rest.map Json.object).filterMap Json.slot?).eraseDups = [.object]
    rw [List.eraseDups_cons, others]
    rfl
  have members : objectsOf (objects.map Json.object) = objects := by
    rw [objectsOf, List.filterMap_map]
    exact List.filterMap_some
  have notNull : (objects.map Json.object).any isNull = false := by
    simp [isNull]
  rw [absorbAll_of_nestingItems_le d (Nat.le_refl _) (List.forall_mem_map.2 canonical), ofValues_eq,
    slots, notNull, List.map_singleton, group, members]
  simp only [absorbAll_of_nestingItems_le d (Nat.le_refl _) (values _)]
  rfl

end Shape

end JsonShape
