import Mathlib.Data.String.Basic
import JsonShape.Proofs.Json.Canonical
import JsonShape.Proofs.Shape.Slots
import JsonShape.Proofs.TextFormat.Candidate

/-!
# Shapes without some formats

`Shape.muted` leaves a shape as it is but for the formats that are not looked for, which it drops.
Dropping formats of a shape and then taking in a value without looking for them comes to the same as
taking in the value and then dropping them (`muted_absorb`). What makes that so is that a string never
has two formats, so that no other one is found in place of one that is not looked for
(`Detectors.filter_detect`). So detectors that are off cost a shape their formats and change nothing
else of it, and nothing is found without them that is not found with them (`muted_absorbAll_all`).
-/

set_option autoImplicit false

namespace JsonShape

/-! ## Detectors -/

namespace Detectors

/-- Looking for fewer formats finds the same one, or none. -/
theorem filter_detect {d e : Detectors} (fewer : ∀ f, e.enabled f = true → d.enabled f = true)
    (s : String) : (d.detect s).filter e.enabled = e.detect s := by
  ext f
  rw [Option.filter_eq_some_iff, detect_eq_some_iff, detect_eq_some_iff]
  constructor
  · rintro ⟨⟨-, has⟩, enabled⟩
    exact ⟨enabled, has⟩
  · rintro ⟨enabled, has⟩
    exact ⟨⟨fewer f enabled, has⟩, enabled⟩

theorem enabled_all (f : TextFormat) : all.enabled f = true := by cases f <;> rfl

theorem enabled_none (f : TextFormat) : none.enabled f = false := by cases f <;> rfl

end Detectors

/-! ## Fields -/

/-- Fields with a change to what is known about every key. -/
def Fields.mapValues {α β : Type} (change : α → β) (f : Fields α) : Fields β :=
  ⟨Entries.mapValues change f.required, Entries.mapValues change f.optional⟩

theorem Fields.mapValues_retire {β : Type} (change : Shape → Shape) (members : Entries β)
    (f : Fields Shape) :
    (f.retire members).mapValues change = (f.mapValues change).retire members := by
  simp only [Fields.mapValues, Fields.retire, Entries.mapValues_union,
    Entries.mapValues_filter_key change fun k => Entries.has k members,
    Entries.mapValues_filter_key change fun k => !Entries.has k members]

theorem Fields.mapValues_change {change widen widen' : Shape → Shape}
    (h : ∀ t, change (widen t) = widen' (change t)) (unknown : change .unknown = .unknown)
    (key : String) (f : Fields Shape) :
    (f.change key widen).mapValues change = (f.mapValues change).change key widen' := by
  simp only [Fields.change, Fields.mapValues, Entries.has_mapValues]
  split
  · rw [Entries.mapValues_update h]
  · split
    · rw [Entries.mapValues_update h]
    · rw [Entries.mapValues_insert, h, unknown]

namespace Shape

/-! ## Formats dropped -/

mutual

/-- A shape without the formats that are not looked for. -/
def muted (d : Detectors) : Shape → Shape
  | unknown => unknown
  | boolean => boolean
  | int range => int range
  | float range => float range
  | string format => string (format.filter d.enabled)
  | array items => array (muted d items)
  | object ⟨required, optional⟩ => object ⟨mutedEntries d required, mutedEntries d optional⟩
  | nullable inner => nullable (muted d inner)
  | anyOf alternatives => anyOf (mutedAll d alternatives)

/-- `muted`, key by key. -/
def mutedEntries (d : Detectors) : List (String × Shape) → List (String × Shape)
  | [] => []
  | (key, t) :: rest => (key, muted d t) :: mutedEntries d rest

/-- `muted`, one by one. -/
def mutedAll (d : Detectors) : List Shape → List Shape
  | [] => []
  | t :: rest => muted d t :: mutedAll d rest

end

section
variable (d : Detectors)

theorem mutedEntries_eq_mapValues (es : List (String × Shape)) :
    mutedEntries d es = Entries.mapValues (muted d) es := by
  induction es with
  | nil => rfl
  | cons e es ih =>
    rw [mutedEntries, ih]
    rfl

theorem mutedAll_eq_map (ts : List Shape) : mutedAll d ts = ts.map (muted d) := by
  induction ts with
  | nil => rfl
  | cons t ts ih => rw [mutedAll, ih, List.map_cons]

theorem muted_object (f : Fields Shape) :
    (object f).muted d = object (f.mapValues (muted d)) := by
  rw [muted, mutedEntries_eq_mapValues, mutedEntries_eq_mapValues]
  rfl

theorem muted_anyOf (ts : List Shape) : (anyOf ts).muted d = anyOf (ts.map (muted d)) := by
  rw [muted, mutedAll_eq_map]

theorem slot?_muted (t : Shape) : (t.muted d).slot? = t.slot? := by
  cases t <;> rfl

end

/-! ## One slot -/

section
variable {d : Detectors} {slot : Slot} {grow grow' : Option Shape → Shape}
  (h : ∀ o, (grow o).muted d = grow' (o.map (muted d)))
include h

theorem map_muted_growFirst (ts : List Shape) :
    (growFirst slot grow ts).map (muted d) = growFirst slot grow' (ts.map (muted d)) := by
  induction ts with
  | nil => rw [growFirst, List.map_singleton, h, List.map_nil, growFirst, Option.map_none]
  | cons t ts ih =>
    rw [List.map_cons, growFirst, growFirst, slot?_muted]
    split
    · rw [List.map_cons, h, Option.map_some]
    · rw [List.map_cons, ih]

theorem muted_receive (t : Shape) :
    (receive slot grow t).muted d = receive slot grow' (t.muted d) := by
  -- A shape of one slot grows, or gets a second alternative.
  have single (t : Shape) :
      (if t.slot? = some slot then grow (some t) else anyOf [t, grow none]).muted d =
        if (t.muted d).slot? = some slot then grow' (some (t.muted d))
        else anyOf [t.muted d, grow' none] := by
    rw [slot?_muted]
    split
    · rw [h, Option.map_some]
    · rw [muted_anyOf, List.map_cons, List.map_singleton, h, Option.map_none]
  induction t using Shape.induct with
  | unknown => rw [receive, h, muted, receive, Option.map_none]
  | nullable inner ih => rw [receive, muted, ih, muted, receive]
  | anyOf ts => rw [receive, muted_anyOf, map_muted_growFirst h, muted_anyOf, receive]
  | boolean => exact single boolean
  | int range => exact single (int range)
  | float range => exact single (float range)
  | string format => exact single (string format)
  | array items => exact single (array items)
  | object required optional => exact single (object ⟨required, optional⟩)

end

theorem muted_receiveNull (d : Detectors) (t : Shape) :
    (receiveNull t).muted d = receiveNull (t.muted d) := by
  cases t <;> rfl

/-! ## Leaves -/

theorem muted_growNumber (d : Detectors) (n : Number) (o : Option Shape) :
    (growNumber n o).muted d = growNumber n (o.map (muted d)) := by
  have fresh : (if n.isIntegral then int (.single n.toDouble) else float (.single n.toDouble)).muted d =
      if n.isIntegral then int (.single n.toDouble) else float (.single n.toDouble) := by
    split <;> rfl
  cases o with
  | none => exact fresh
  | some t =>
    cases t with
    | int range =>
      change (if n.isIntegral then _ else _ : Shape).muted d = if n.isIntegral then _ else _
      split <;> rfl
    | float range => rfl
    | _ => exact fresh

/-- Two formats that are not the same can become so only if both are dropped. -/
theorem muted_growString {d e : Detectors} (fewer : ∀ f, e.enabled f = true → d.enabled f = true)
    (s : String) (o : Option Shape) :
    (growString (d.detect s) o).muted e = growString (e.detect s) (o.map (muted e)) := by
  have fresh : (string (d.detect s)).muted e = string (e.detect s) := by
    rw [muted, Detectors.filter_detect fewer]
  cases o with
  | none => exact fresh
  | some t =>
    cases t with
    | string known =>
      rw [growString, muted, Option.map_some, muted, growString, ← Detectors.filter_detect fewer]
      by_cases same : known = d.detect s
      · rw [if_pos same, ← same, if_pos rfl]
      · rw [if_neg same, Option.filter_none]
        split
        · next both =>
          cases found : known.filter e.enabled with
          | none => rfl
          | some f =>
            rw [found] at both
            have hk := (Option.filter_eq_some_iff.1 found).1
            have hd := (Option.filter_eq_some_iff.1 both.symm).1
            exact absurd (hk.trans hd.symm) same
        · rfl
    | _ => exact fresh

/-! ## Values -/

section
variable {d e : Detectors}

theorem muted_absorbItems {items : List Json}
    (h : ∀ v ∈ items, ∀ t, (absorb d v t).muted e = absorb e v (t.muted e)) (t : Shape) :
    (absorbItems d items t).muted e = absorbItems e items (t.muted e) := by
  induction items generalizing t with
  | nil => rfl
  | cons v items ih =>
    rw [absorbItems, absorbItems, ih fun v hv => h v (List.mem_cons_of_mem _ hv),
      h v List.mem_cons_self]

theorem mapValues_muted_absorbMembers {members : List (String × Json)}
    (h : ∀ m ∈ members, ∀ t, (absorb d m.2 t).muted e = absorb e m.2 (t.muted e))
    (f : Fields Shape) :
    (absorbMembers d members f).mapValues (muted e) =
      absorbMembers e members (f.mapValues (muted e)) := by
  induction members generalizing f with
  | nil => rfl
  | cons m members ih =>
    rw [absorbMembers, absorbMembers, ih fun m hm => h m (List.mem_cons_of_mem _ hm),
      Fields.mapValues_change (h m List.mem_cons_self) rfl]

theorem mapValues_muted_shapesOf {members : List (String × Json)}
    (h : ∀ m ∈ members, ∀ t, (absorb d m.2 t).muted e = absorb e m.2 (t.muted e)) :
    Entries.mapValues (muted e) (shapesOf d members) = shapesOf e members := by
  induction members with
  | nil => rfl
  | cons m members ih =>
    have first := h m List.mem_cons_self unknown
    rw [muted] at first
    rw [shapesOf, shapesOf, ← ih fun m hm => h m (List.mem_cons_of_mem _ hm), ← first]
    rfl

variable (fewer : ∀ f, e.enabled f = true → d.enabled f = true)
include fewer

/-- Taking in a value and dropping formats commute. -/
theorem muted_absorb (v : Json) (t : Shape) :
    (absorb d v t).muted e = absorb e v (t.muted e) := by
  induction v using Json.induct generalizing t with
  | null => exact muted_receiveNull e t
  | bool b => exact muted_receive (fun _ => rfl) t
  | number n => exact muted_receive (muted_growNumber e n) t
  | string s => exact muted_receive (muted_growString fewer s) t
  | array items ih =>
    have fresh : (array (absorbItems d items unknown)).muted e =
        array (absorbItems e items unknown) := by
      rw [muted, muted_absorbItems ih, muted]
    rw [absorb_eq_receive d rfl, absorb_eq_receive e rfl]
    refine muted_receive (fun o => ?_) t
    cases o with
    | none => exact fresh
    | some u =>
      cases u with
      | array items =>
        rw [grow, muted, muted_absorbItems ih]
        rfl
      | _ => exact fresh
  | object members ih =>
    have fresh : (object ⟨shapesOf d members, []⟩).muted e = object ⟨shapesOf e members, []⟩ := by
      rw [muted_object, Fields.mapValues, mapValues_muted_shapesOf ih]
      rfl
    rw [absorb_eq_receive d rfl, absorb_eq_receive e rfl]
    refine muted_receive (fun o => ?_) t
    cases o with
    | none => exact fresh
    | some u =>
      cases u with
      | object f =>
        rw [grow, muted_object, mapValues_muted_absorbMembers ih, Fields.mapValues_retire,
          Option.map_some, muted_object]
        rfl
      | _ => exact fresh

theorem muted_absorbAll (vs : List Json) (t : Shape) :
    (absorbAll d vs t).muted e = absorbAll e vs (t.muted e) := by
  induction vs generalizing t with
  | nil => rfl
  | cons v vs ih =>
    change (absorbAll d vs (absorb d v t)).muted e = absorbAll e vs (absorb e v (t.muted e))
    rw [ih, muted_absorb fewer]

end

/-- The shape of values with some detectors off is the one with all detectors on, without the formats
that are not looked for. So whatever detectors are on, the shapes are the same but for formats, and
with fewer detectors there is no format that there is not with more of them. -/
theorem absorbAll_eq_muted (vs : List Json) :
    (∀ d, absorbAll d vs unknown = (absorbAll .all vs unknown).muted d) ∧
    (∀ d e, (absorbAll d vs unknown).muted .none = (absorbAll e vs unknown).muted .none) ∧
    ∀ d e, (∀ f, e.enabled f = true → d.enabled f = true) →
      absorbAll e vs unknown = (absorbAll d vs unknown).muted e := by
  have without (d : Detectors) :
      (absorbAll d vs unknown).muted .none = absorbAll .none vs unknown :=
    muted_absorbAll (fun f h => absurd h (by rw [Detectors.enabled_none]; decide)) vs unknown
  refine ⟨fun d => ?_, fun d e => ?_, fun d e fewer => ?_⟩
  · exact (muted_absorbAll (fun f _ => Detectors.enabled_all f) vs unknown).symm
  · rw [without, without]
  · exact (muted_absorbAll fewer vs unknown).symm

/-- A date among the items of an array, with and without looking for dates. -/
theorem absorbAll_eq_muted_of_date :
    let vs := [Json.array [.string "2024-02-29"], .null]
    let dateless := { Detectors.all with datetime := false }
    absorbAll .all vs unknown = nullable (array (string (some .date))) ∧
      (∀ f, dateless.enabled f = true → Detectors.all.enabled f = true) ∧
      absorbAll dateless vs unknown = nullable (array (string none)) := by
  intro vs dateless
  have dates : absorbAll .all vs unknown = nullable (array (string (some .date))) := rfl
  have fewer : ∀ f, dateless.enabled f = true → Detectors.all.enabled f = true := fun f _ =>
    Detectors.enabled_all f
  refine ⟨dates, fewer, ?_⟩
  rw [(absorbAll_eq_muted vs).2.2 .all dateless fewer, dates]
  rfl

end Shape

end JsonShape
