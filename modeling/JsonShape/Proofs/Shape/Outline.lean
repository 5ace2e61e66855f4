import Mathlib.Data.String.Basic
import JsonShape.Proofs.Shape.Preservation

/-!
# What a shape knows, without order

`Shape.outline` forgets the order of alternatives and the sign of zero: for each slot it says whether
values of it have been seen and what is known about them, keys being looked up instead of listed.
Taking in a value is an operation on outlines (`outline_absorb`), and there any two values commute
(`Outline.absorb_comm`), by induction on one of them.
-/

set_option autoImplicit false

namespace JsonShape

/-- What is known about values, slot by slot. -/
structure Outline where
  null : Bool
  boolean : Bool
  /-- Whether all numbers are integers, and the positions of the least and the greatest. -/
  number : Option (Bool × Int × Int)
  string : Option (Option TextFormat)
  array : Option Outline
  /-- For each key, whether every object had it, and what is known about its values. -/
  object : Option (String → Option (Bool × Outline))

namespace Shape

/-! ## The outline of a shape -/

theorem sizeOf_le_of_mem_alternatives : ∀ (t : Shape), ∀ u ∈ t.alternatives, sizeOf u ≤ sizeOf t
  | nullable inner, u, hu => by
    have := sizeOf_le_of_mem_alternatives inner u hu
    simp only [nullable.sizeOf_spec]
    omega
  | anyOf ts, u, hu => by
    have : sizeOf u < sizeOf ts := List.sizeOf_lt_of_mem hu
    simp only [anyOf.sizeOf_spec]
    omega
  | unknown, u, hu => absurd hu List.not_mem_nil
  | boolean, u, hu | int _, u, hu | float _, u, hu | string _, u, hu | array _, u, hu
  | object _, u, hu => by rw [List.mem_singleton.1 hu]

/-- What is known about the items of arrays, if there have been any arrays. -/
def knownItems? (t : Shape) : Option Shape := (t.part? .array).bind items?

theorem sizeOf_knownItems?_lt {t s : Shape} (h : t.knownItems? = some s) : sizeOf s < sizeOf t := by
  obtain ⟨u, hu, hs⟩ := Option.bind_eq_some_iff.1 h
  cases u <;> simp only [items?, Option.some.injEq, reduceCtorEq] at hs
  subst hs
  have := sizeOf_le_of_mem_alternatives t _ (mem_of_partOf? hu)
  simp only [array.sizeOf_spec] at this
  omega

theorem sizeOf_known?_lt {t s : Shape} {key : String} (h : known? key t.knownFields = some s) :
    sizeOf s < sizeOf t := by
  obtain ⟨f, hf, hs⟩ := Option.bind_eq_some_iff.1 h
  have hle := sizeOf_le_of_mem_alternatives t _ (mem_of_partOf? (part?_of_mem_knownFields hf))
  have := Fields.sizeOf_lt_of_get? hs
  simp only [object.sizeOf_spec] at hle
  omega

end Shape

/-- The positions of the ends of a range. -/
def Interval.positions (range : Interval) : Int × Int :=
  (range.lo.position.getD 0, range.hi.position.getD 0)

namespace Shape

/-- Whether the numbers of a shape are integers, and where their range ends. -/
def numbers? : Shape → Option (Bool × Int × Int)
  | int range => some (true, range.positions)
  | float range => some (false, range.positions)
  | _ => none

/-- The format of a shape of strings. -/
def format? : Shape → Option (Option TextFormat)
  | string format => some format
  | _ => none

/-- What a shape knows. -/
def outline (t : Shape) : Outline :=
  { null := t.isNullable
    boolean := (t.part? .boolean).isSome
    number := (t.part? .number).bind numbers?
    string := (t.part? .string).bind format?
    array := t.knownItems?.attach.map fun ⟨s, _⟩ => outline s
    object := t.knownFields.attach.map fun ⟨f, _⟩ key =>
      (f.get? key).attach.map fun ⟨s, _⟩ => (f.isRequired key, outline s) }
termination_by sizeOf t
decreasing_by
  · exact sizeOf_knownItems?_lt ‹_›
  · exact sizeOf_known?_lt (Option.bind_eq_some_iff.2
      ⟨_, ‹t.knownFields = some _›, ‹Fields.get? _ _ = some _›⟩)

/-- What an object shape knows about its keys. -/
def outlines (f : Fields Shape) (key : String) : Option (Bool × Outline) :=
  (f.get? key).map fun s => (f.isRequired key, outline s)

/-- The outline that what is known slot by slot amounts to. -/
def outlineOf (null : Bool) (part : Slot → Option Shape) : Outline where
  null := null
  boolean := (part .boolean).isSome
  number := (part .number).bind numbers?
  string := (part .string).bind format?
  array := ((part .array).bind items?).map outline
  object := ((part .object).bind fields?).map outlines

theorem outline_eq (t : Shape) : t.outline = outlineOf t.isNullable fun slot => t.part? slot := by
  have keys (f : Fields Shape) (key : String) : ((f.get? key).attach.map fun s =>
      (f.isRequired key, outline s.1)) = outlines f key :=
    Option.attach_map_val _ fun s => (f.isRequired key, outline s)
  rw [outline]
  simp only [keys]
  congr 1
  · exact Option.attach_map_val _ outline
  · exact Option.attach_map_val _ outlines

end Shape

/-! ## Taking in a value -/

namespace Outline

/-- Nothing is known. -/
def empty : Outline := ⟨false, false, none, none, none, none⟩

/-- What is known about numbers, with one more. -/
def takeNumber (n : Number) : Option (Bool × Int × Int) → Bool × Int × Int
  | none => (n.isIntegral, n.toDouble.position.getD 0, n.toDouble.position.getD 0)
  | some (integral, lo, hi) =>
    (integral && n.isIntegral, Min.min lo (n.toDouble.position.getD 0),
      Max.max hi (n.toDouble.position.getD 0))

/-- The format of strings, with one more. -/
def takeFormat (format : Option TextFormat) : Option (Option TextFormat) → Option TextFormat
  | none => format
  | some known => if known = format then known else none

/-- What is known about a key, given what comes of its value if there is one. -/
def takeKey (known : Option (String → Option (Bool × Outline))) (key : String) :
    Option Outline → Option (Bool × Outline)
  | some c => some (known.all fun f => (f key).any Prod.fst, c)
  | none => (known.bind fun f => f key).map fun k => (false, k.2)

/-- What has been known about the values of a key. -/
def under (known : Option (String → Option (Bool × Outline))) (key : String) : Outline :=
  ((known.bind fun f => f key).map Prod.snd).getD empty

mutual

/-- An outline with a value taken in. -/
def absorb (d : Detectors) : Json → Outline → Outline
  | .null, c => { c with null := true }
  | .bool _, c => { c with boolean := true }
  | .number n, c => { c with number := some (takeNumber n c.number) }
  | .string s, c => { c with string := some (takeFormat (d.detect s) c.string) }
  | .array items, c => { c with array := some (absorbItems d items (c.array.getD empty)) }
  | .object members, c =>
    { c with object := some fun key =>
        takeKey c.object key (absorbMember d key members (under c.object key)) }

/-- An outline with every item of an array taken in, in order. -/
def absorbItems (d : Detectors) : List Json → Outline → Outline
  | [], c => c
  | v :: rest, c => absorbItems d rest (absorb d v c)

/-- An outline with the value that an object has under a key taken in, if it has one. -/
def absorbMember (d : Detectors) (key : String) : List (String × Json) → Outline → Option Outline
  | [], _ => none
  | (k, v) :: rest, c => if k = key then some (absorb d v c) else absorbMember d key rest c

end

theorem absorbMember_eq (d : Detectors) (key : String) (members : List (String × Json))
    (c : Outline) :
    absorbMember d key members c = (Entries.get? key members).map fun v => absorb d v c := by
  induction members with
  | nil => rfl
  | cons m members ih =>
    obtain ⟨k, v⟩ := m
    rw [absorbMember, Entries.get?, ih]
    split <;> rfl

/-! ## Any two values commute -/

theorem takeNumber_comm (m n : Number) (c : Option (Bool × Int × Int)) :
    takeNumber m (some (takeNumber n c)) = takeNumber n (some (takeNumber m c)) := by
  have swap (a b c : Bool) : (a && b && c) = (a && c && b) := by cases a <;> cases b <;> cases c <;> rfl
  cases c with
  | none =>
    simp only [takeNumber, Prod.mk.injEq]
    exact ⟨Bool.and_comm _ _, Int.min_comm _ _, Int.max_comm _ _⟩
  | some c =>
    simp only [takeNumber, Prod.mk.injEq]
    refine ⟨swap _ _ _, ?_, ?_⟩ <;> omega

theorem takeFormat_comm (f g : Option TextFormat) (c : Option (Option TextFormat)) :
    takeFormat f (some (takeFormat g c)) = takeFormat g (some (takeFormat f c)) := by
  cases c with
  | none =>
    by_cases h : f = g
    · rw [h]
    · have h' : ¬ g = f := fun he => h he.symm
      simp [takeFormat, h, h']
  | some known =>
    by_cases hf : known = f
    · subst hf
      by_cases hg : known = g
      · rw [hg]
      · simp [takeFormat, hg]
    · by_cases hg : known = g
      · subst hg
        simp [takeFormat, hf]
      · simp [takeFormat, hf, hg]

/-- What is known about a key once an object has come. -/
def afterObject (d : Detectors) (members : List (String × Json))
    (known : Option (String → Option (Bool × Outline))) (key : String) : Option (Bool × Outline) :=
  takeKey known key (absorbMember d key members (under known key))

section

variable {d : Detectors} {known : Option (String → Option (Bool × Outline))} {key : String}
  {members : List (String × Json)}

theorem afterObject_of_none (h : Entries.get? key members = none) :
    afterObject d members known key = (known.bind fun f => f key).map fun k => (false, k.2) := by
  rw [afterObject, absorbMember_eq, h]
  rfl

theorem afterObject_of_some {v : Json} (h : Entries.get? key members = some v) :
    afterObject d members known key =
      some (known.all fun f => (f key).any Prod.fst, absorb d v (under known key)) := by
  rw [afterObject, absorbMember_eq, h]
  rfl

theorem under_afterObject_of_none (h : Entries.get? key members = none) :
    under (some (afterObject d members known)) key = under known key := by
  rw [under, Option.bind_some, afterObject_of_none h, under]
  cases known.bind fun f => f key <;> rfl

theorem under_afterObject_of_some {v : Json} (h : Entries.get? key members = some v) :
    under (some (afterObject d members known)) key = absorb d v (under known key) := by
  rw [under, Option.bind_some, afterObject_of_some h]
  rfl

/-- Two objects can come in either order if what one has under a key can. -/
theorem afterObject_comm {more : List (String × Json)}
    (comm : ∀ v ∈ Entries.get? key members, ∀ (w : Json) (c : Outline),
      absorb d v (absorb d w c) = absorb d w (absorb d v c)) :
    afterObject d members (some (afterObject d more known)) key =
      afterObject d more (some (afterObject d members known)) key := by
  cases hv : Entries.get? key members with
  | none =>
    rw [afterObject_of_none hv, Option.bind_some]
    cases hw : Entries.get? key more with
    | none =>
      rw [afterObject_of_none hw, afterObject_of_none hw, Option.bind_some, afterObject_of_none hv]
    | some w =>
      rw [afterObject_of_some hw, afterObject_of_some hw, under_afterObject_of_none hv,
        Option.all_some, afterObject_of_none hv]
      cases known.bind fun f => f key <;> rfl
  | some v =>
    rw [afterObject_of_some hv, Option.all_some]
    cases hw : Entries.get? key more with
    | none =>
      rw [afterObject_of_none hw, afterObject_of_none hw, under_afterObject_of_none hw,
        Option.bind_some, afterObject_of_some hv]
      cases known.bind fun f => f key <;> rfl
    | some w =>
      rw [afterObject_of_some hw, afterObject_of_some hw, under_afterObject_of_some hw,
        under_afterObject_of_some hv, Option.all_some, afterObject_of_some hv, comm v hv]
      rfl

end

/-- Items can be taken in in either order, if values can. -/
theorem absorbItems_comm (d : Detectors) {items : List Json}
    (each : ∀ v ∈ items, ∀ (w : Json) (c : Outline),
      absorb d v (absorb d w c) = absorb d w (absorb d v c)) (more : List Json) (c : Outline) :
    absorbItems d items (absorbItems d more c) = absorbItems d more (absorbItems d items c) := by
  induction items generalizing c with
  | nil => rfl
  | cons v rest ih =>
    rw [List.forall_mem_cons] at each
    have one (more : List Json) (c : Outline) :
        absorb d v (absorbItems d more c) = absorbItems d more (absorb d v c) := by
      induction more generalizing c with
      | nil => rfl
      | cons w more ih => rw [absorbItems, ih, each.1, absorbItems]
    rw [absorbItems, absorbItems, one, ih each.2]

/-- Two values can be taken in in either order. -/
theorem absorb_comm (d : Detectors) (v w : Json) (c : Outline) :
    absorb d v (absorb d w c) = absorb d w (absorb d v c) := by
  induction v using Json.induct generalizing w c with
  | null => cases w <;> rfl
  | bool _ => cases w <;> rfl
  | number n =>
    cases w with
    | number m => simp only [absorb, takeNumber_comm n m]
    | _ => rfl
  | string s =>
    cases w with
    | string r => simp only [absorb, takeFormat_comm (d.detect s)]
    | _ => rfl
  | array items ih =>
    cases w with
    | array more => simp only [absorb, Option.getD_some, absorbItems_comm d ih more]
    | _ => rfl
  | object members ih =>
    cases w with
    | object more =>
      have either : afterObject d members (some (afterObject d more c.object)) =
          afterObject d more (some (afterObject d members c.object)) := by
        funext key
        exact afterObject_comm fun v hv w c => ih (key, v) (Entries.mem_of_get? hv) w c
      simp only [absorb]
      congr 2
    | _ => rfl

end Outline

namespace Shape

/-! ## The outline of a shape that takes in a value -/

theorem outline_unknown : unknown.outline = .empty := outline_eq unknown

theorem numbers?_growNumber (n : Number) {t : Option Shape}
    (h : ∀ u ∈ t, u.slot? = some .number ∧ u.WellFormed) :
    numbers? (growNumber n t) = some (Outline.takeNumber n (t.bind numbers?)) := by
  obtain ⟨p, hp⟩ := Double.exists_position n.isNaN_toDouble
  have positions : ∀ {range : Interval}, range.Valid → (range.extend n.toDouble).positions =
      (Min.min range.positions.1 p, Max.max range.positions.2 p) := by
    intro range hr
    obtain ⟨lo, hlo⟩ := Double.exists_position (Double.isNaN_of_isFinite hr.lo_finite)
    obtain ⟨hi, hhi⟩ := Double.exists_position (Double.isNaN_of_isFinite hr.hi_finite)
    simp only [Interval.positions, Interval.extend, Double.position_min hlo hp,
      Double.position_max hhi hp, hlo, hhi, Option.getD_some]
  cases t with
  | none =>
    have single := Interval.single_eq n.isFinite_toDouble
    cases hi : n.isIntegral <;>
      simp [growNumber, hi, numbers?, Outline.takeNumber, single, Interval.positions]
  | some u =>
    obtain ⟨hs, hu⟩ := h u rfl
    cases u <;> cases hs
    · have := positions (wellFormed_int.1 hu)
      cases hi : n.isIntegral <;>
        simp [growNumber, hi, numbers?, Outline.takeNumber, this, hp]
    · have := positions (wellFormed_float.1 hu)
      simp [growNumber, numbers?, Outline.takeNumber, this, hp]

theorem format?_growString (f : Option TextFormat) {t : Option Shape}
    (h : ∀ u ∈ t, u.slot? = some .string) :
    format? (growString f t) = some (Outline.takeFormat f (t.bind format?)) := by
  cases t with
  | none => rfl
  | some u =>
    have hs := h u rfl
    cases u <;> cases hs
    rfl

theorem any_outlines (f : Fields Shape) (key : String) :
    (outlines f key).any Prod.fst = f.isRequired key := by
  rw [outlines]
  cases hg : f.get? key with
  | some s => rfl
  | none =>
    cases hr : f.isRequired key with
    | false => rfl
    | true =>
      have := Fields.isSome_get?_of_isRequired hr
      rw [hg] at this
      cases this

/-- A value changes what is known about its own slot. -/
theorem outline_absorb_eq (d : Detectors) {v : Json} {slot : Slot} (h : v.slot? = some slot)
    (t : Shape) : (absorb d v t).outline = outlineOf t.isNullable fun s =>
      if s = slot then some (grow d v (t.part? slot)) else t.part? s := by
  rw [outline_eq, isNullable_absorb d h]
  simp only [part?_absorb d h]

theorem outline_knownItems (t : Shape) :
    t.knownItems.outline = t.outline.array.getD .empty := by
  rw [outline_eq t]
  simp only [outlineOf, knownItems]
  cases (t.part? .array).bind items? with
  | none => exact outline_unknown
  | some s => rfl

/-- What has been known about a key is what the outline says. -/
theorem under_outline (t : Shape) (key : String) :
    Outline.under t.outline.object key = ((known? key t.knownFields).getD unknown).outline := by
  rw [outline_eq t]
  simp only [outlineOf, Outline.under, known?, knownFields]
  cases (t.part? .object).bind fields? with
  | none => exact outline_unknown.symm
  | some f =>
    simp only [Option.map_some, Option.bind_some, outlines]
    cases f.get? key with
    | none => exact outline_unknown.symm
    | some s => rfl

section

variable {d : Detectors} {members : List (String × Json)} {t : Shape}

/-- What is known about keys once an object has come, if this holds of the value under each key. -/
theorem outlines_takeIn (ht : t.WellFormed) (ordered : Entries.Ordered members)
    (inner : ∀ key, ∀ v ∈ Entries.get? key members, ∀ s : Shape, s.WellFormed →
      (absorb d v s).outline = s.outline.absorb d v) :
    outlines (takeIn d members t.knownFields) =
      Outline.afterObject d members t.outline.object := by
  have proper : ∀ f ∈ t.knownFields, f.Proper := fun f hf => (ht.knownFields hf).1
  have object : t.outline.object = t.knownFields.map outlines := by
    rw [outline_eq t]
    rfl
  funext key
  rw [outlines, get?_takeIn d ordered proper, isRequired_takeIn]
  cases hv : Entries.get? key members with
  | none =>
    rw [Outline.afterObject_of_none hv, Entries.has, hv, object, known?]
    cases t.knownFields with
    | none => rfl
    | some f =>
      simp only [Option.bind_some, Option.map_some, outlines]
      cases f.get? key <;> rfl
  | some v =>
    rw [Outline.afterObject_of_some hv, under_outline, ← inner key v hv _ (ht.known key),
      Entries.has, hv, object, Option.map_some]
    cases t.knownFields with
    | none => rfl
    | some f =>
      simp only [Option.isSome_some, Bool.true_and, Option.all_some, Option.map_some,
        any_outlines]

end

theorem outline_absorbItems (d : Detectors) {items : List Json} (hv : ∀ v ∈ items, v.Canonical)
    (each : ∀ v ∈ items, ∀ {t : Shape}, t.WellFormed →
      (absorb d v t).outline = t.outline.absorb d v) {t : Shape} (ht : t.WellFormed) :
    (absorbItems d items t).outline = t.outline.absorbItems d items := by
  induction items generalizing t with
  | nil => rfl
  | cons v rest ih =>
    rw [List.forall_mem_cons] at hv each
    rw [absorbItems, ih hv.2 each.2 (wellFormed_absorb d v hv.1 ht), each.1 ht,
      Outline.absorbItems]

/-- Taking in a value is an operation on outlines. -/
theorem outline_absorb (d : Detectors) (v : Json) {t : Shape} (hv : v.Canonical)
    (ht : t.WellFormed) : (absorb d v t).outline = t.outline.absorb d v := by
  induction v using Json.induct generalizing t with
  | null =>
    rw [outline_eq, outline_eq t, isNullable_absorb_null]
    simp only [part?_absorb_null]
    rfl
  | bool b =>
    rw [outline_absorb_eq d rfl, outline_eq t]
    rfl
  | number n =>
    have known : ∀ u ∈ t.part? .number, u.slot? = some .number ∧ u.WellFormed := fun u hu =>
      ⟨slot?_of_partOf? hu, ht.part? hu⟩
    rw [outline_absorb_eq d rfl, outline_eq t]
    exact congrArg (fun number => { outlineOf t.isNullable fun slot => t.part? slot with number })
      (numbers?_growNumber n known)
  | string s =>
    rw [outline_absorb_eq d rfl, outline_eq t]
    exact congrArg (fun string => { outlineOf t.isNullable fun slot => t.part? slot with string })
      (format?_growString (d.detect s) fun u hu => slot?_of_partOf? hu)
  | array items ih =>
    have inner := outline_absorbItems d (fun v hm => hv.items hm)
      (fun v hm _ => ih v hm (hv.items hm)) ht.knownItems
    rw [outline_knownItems] at inner
    rw [outline_absorb_eq d rfl, grow_knownItems]
    simp only [Outline.absorb, ← inner]
    rw [outline_eq t]
    rfl
  | object members ih =>
    have inner := outlines_takeIn (d := d) ht hv.1 fun key v hm s hs =>
      ih (key, v) (Entries.mem_of_get? hm) (hv.members (Entries.mem_of_get? hm)) hs
    have whole : t.outline.absorb d (.object members) =
        ⟨t.outline.null, t.outline.boolean, t.outline.number, t.outline.string, t.outline.array,
          some (Outline.afterObject d members t.outline.object)⟩ := rfl
    rw [outline_absorb_eq d rfl, grow_knownFields, whole, ← inner, outline_eq t]
    rfl

theorem outline_absorbAll (d : Detectors) {vs : List Json} (hv : ∀ v ∈ vs, v.Canonical) {t : Shape}
    (ht : t.WellFormed) :
    (absorbAll d vs t).outline = vs.foldl (fun c v => c.absorb d v) t.outline := by
  induction vs generalizing t with
  | nil => rfl
  | cons v vs ih =>
    rw [List.forall_mem_cons] at hv
    rw [List.foldl_cons, ← outline_absorb d v hv.1 ht]
    exact ih hv.2 (wellFormed_absorb d v hv.1 ht)

end Shape

end JsonShape
