import Mathlib.Data.String.Basic
import JsonShape.Proofs.Shape.WellFormed
import JsonShape.Shape.Absorb

/-!
# Shapes slot by slot

A shape is, up to its form, whether null has been seen and the list of its alternatives, one shape
for each slot. `Shape.absorb` only ever changes that list by `Shape.growFirst`, with one function
`Shape.grow` for each kind of value (`absorb_eq_receive`, `alternatives_absorb`), so what it does to a
shape is said by what it does to the shape of each slot (`part?_absorb`).

A sound shape is rebuilt from its alternatives (`rebuild_alternatives`), and taking in a value is
growing the list and rebuilding (`absorb_rebuild`).
-/

set_option autoImplicit false

namespace JsonShape

/-- The slot of a value; null has none. -/
def Json.slot? : Json → Option Slot
  | null => none
  | bool _ => some .boolean
  | number _ => some .number
  | string _ => some .string
  | array _ => some .array
  | object _ => some .object

theorem Json.slot?_eq_none_iff {v : Json} : v.slot? = none ↔ v = .null := by
  cases v <;> simp [slot?]

namespace Shape

/-! ## One value, one slot -/

/-- The shape of a slot with a value of that slot taken in, given the shape it has so far. -/
def grow (d : Detectors) : Json → Option Shape → Shape
  | .null, t => receiveNull (t.getD unknown)
  | .bool _, _ => boolean
  | .number n, t => growNumber n t
  | .string s, t => growString (d.detect s) t
  | .array items, some (array s) => array (absorbItems d items s)
  | .array items, _ => array (absorbItems d items unknown)
  | .object members, some (object f) => object (absorbMembers d members (f.retire members))
  | .object members, _ => object ⟨shapesOf d members, []⟩

theorem grow_string (d : Detectors) (s : String) (t : Option Shape) :
    grow d (.string s) t = growString (d.detect s) t := rfl

theorem absorb_eq_receive (d : Detectors) {v : Json} {slot : Slot} (h : v.slot? = some slot)
    (t : Shape) : absorb d v t = receive slot (grow d v) t := by
  cases v with
  | null => cases h
  | bool b => cases h; rw [absorb]; congr 1
  | number n => cases h; rw [absorb]; congr 1
  | string s => cases h; rw [absorb]; congr 1
  | array items =>
    cases h
    rw [absorb]
    congr 1
    funext o
    cases o with
    | none => rfl
    | some t => cases t <;> rfl
  | object members =>
    cases h
    rw [absorb]
    congr 1
    funext o
    cases o with
    | none => rfl
    | some t => cases t <;> rfl

theorem slot?_growNumber (n : Number) (t : Option Shape) :
    (growNumber n t).slot? = some .number := by
  unfold growNumber
  split
  · split <;> rfl
  · rfl
  · split <;> rfl

theorem slot?_growString (f : Option TextFormat) (t : Option Shape) :
    (growString f t).slot? = some .string := by
  unfold growString
  split <;> rfl

theorem slot?_grow (d : Detectors) {v : Json} {slot : Slot} (h : v.slot? = some slot)
    (t : Option Shape) : (grow d v t).slot? = some slot := by
  cases v with
  | null => cases h
  | bool b => cases h; rfl
  | number n => cases h; exact slot?_growNumber n t
  | string s => cases h; exact slot?_growString _ t
  | array items => cases h; unfold grow; split <;> first | rfl | simp_all
  | object members => cases h; unfold grow; split <;> first | rfl | simp_all

/-! ## The shape of a slot -/

/-- The first of several shapes that is of a slot. -/
def partOf? (slot : Slot) (ts : List Shape) : Option Shape :=
  ts.find? fun t => decide (t.slot? = some slot)

/-- The shapes of the slots of a shape, in order. -/
def alternatives : Shape → List Shape
  | unknown => []
  | nullable inner => alternatives inner
  | anyOf ts => ts
  | t => [t]

/-- What is known about the values of a slot. -/
def part? (slot : Slot) (t : Shape) : Option Shape := partOf? slot t.alternatives

theorem slot?_of_partOf? {slot : Slot} {ts : List Shape} {t : Shape}
    (h : partOf? slot ts = some t) : t.slot? = some slot := by
  have := List.find?_some h
  simpa using this

theorem mem_of_partOf? {slot : Slot} {ts : List Shape} {t : Shape}
    (h : partOf? slot ts = some t) : t ∈ ts := List.mem_of_find?_eq_some h

theorem partOf?_eq_none_iff {slot : Slot} {ts : List Shape} :
    partOf? slot ts = none ↔ some slot ∉ ts.map slot? := by
  simp only [partOf?, List.find?_eq_none, decide_eq_true_eq, List.mem_map, not_exists, not_and]

/-- Of shapes of different slots, each is the one of its slot. -/
theorem partOf?_of_mem {slot : Slot} {ts : List Shape} {t : Shape}
    (nodup : (ts.map slot?).Nodup) (hm : t ∈ ts) (h : t.slot? = some slot) :
    partOf? slot ts = some t := by
  induction ts with
  | nil => simp at hm
  | cons u ts ih =>
    rw [List.map_cons, List.nodup_cons] at nodup
    rw [partOf?, List.find?_cons]
    split
    · next hu =>
      rcases List.mem_cons.1 hm with rfl | hm
      · rfl
      · refine absurd ?_ nodup.1
        rw [decide_eq_true_eq] at hu
        rw [hu, ← h]
        exact List.mem_map_of_mem hm
    · next hu =>
      rcases List.mem_cons.1 hm with rfl | hm
      · simp [h] at hu
      · exact ih nodup.2 hm

theorem alternatives_of_slot {t : Shape} {slot : Slot} (h : t.slot? = some slot) :
    t.alternatives = [t] := by
  cases t <;> simp_all [slot?, alternatives]

theorem part?_nullable (slot : Slot) (t : Shape) : (nullable t).part? slot = t.part? slot := rfl

theorem part?_of_slot {t : Shape} {slot : Slot} (h : t.slot? = some slot) :
    t.part? slot = some t := by
  simp [part?, alternatives_of_slot h, partOf?, h]

/-! ## Growing -/

/-- Every alternative afterwards was one before, or is the one that has grown. -/
theorem mem_growFirst {slot : Slot} {f : Option Shape → Shape} {ts : List Shape} {u : Shape}
    (h : u ∈ growFirst slot f ts) :
    u ∈ ts ∨ u = f (partOf? slot ts) := by
  induction ts with
  | nil => exact .inr (by simpa [growFirst, partOf?] using h)
  | cons t ts ih =>
    rw [growFirst] at h
    split at h
    · next ht =>
      rcases List.mem_cons.1 h with rfl | hm
      · exact .inr (by simp [partOf?, ht])
      · exact .inl (List.mem_cons_of_mem _ hm)
    · next ht =>
      rcases List.mem_cons.1 h with rfl | hm
      · exact .inl List.mem_cons_self
      · rcases ih hm with hm | he
        · exact .inl (List.mem_cons_of_mem _ hm)
        · exact .inr (by rw [he, partOf?, partOf?, List.find?_cons]; simp [ht])

section
variable {slot : Slot} {f : Option Shape → Shape} (hf : ∀ t, (f t).slot? = some slot)
include hf

theorem map_slot?_growFirst (ts : List Shape) :
    (growFirst slot f ts).map slot? =
      if some slot ∈ ts.map slot? then ts.map slot? else ts.map slot? ++ [some slot] := by
  induction ts with
  | nil => simp [growFirst, hf]
  | cons t ts ih =>
    rw [growFirst]
    split
    · next h => simp [hf, h]
    · next h =>
      rw [List.map_cons, ih, List.map_cons]
      have hne : some slot ≠ t.slot? := fun he => h he.symm
      by_cases hm : some slot ∈ ts.map slot? <;> simp only [List.mem_cons, hne, hm, false_or,
        if_true, if_false, List.cons_append]

theorem partOf?_growFirst (s : Slot) (ts : List Shape) :
    partOf? s (growFirst slot f ts) =
      if s = slot then some (f (partOf? slot ts)) else partOf? s ts := by
  induction ts with
  | nil =>
    simp only [growFirst, partOf?, List.find?_cons, List.find?_nil, hf, Option.some.injEq]
    by_cases h : s = slot
    · subst h; simp
    · have h' : slot ≠ s := fun he => h he.symm
      simp [h, h']
  | cons t ts ih =>
    rw [growFirst]
    by_cases ht : t.slot? = some slot
    · rw [if_pos ht]
      by_cases h : s = slot
      · subst h; simp [partOf?, hf, ht]
      · have h' : slot ≠ s := fun he => h he.symm
        simp [partOf?, hf, ht, h, h']
    · rw [if_neg ht]
      by_cases h : s = slot
      · subst h
        simp only [partOf?, List.find?_cons, ht, decide_false, if_true] at ih ⊢
        exact ih
      · simp only [partOf?, List.find?_cons, ht, decide_false, if_neg h] at ih ⊢
        split
        · rfl
        · exact ih

theorem alternatives_receive :
    ∀ t : Shape, alternatives (receive slot f t) = growFirst slot f (alternatives t)
  | nullable inner => alternatives_receive inner
  | unknown => alternatives_of_slot (hf none)
  | anyOf _ => rfl
  | boolean | int _ | float _ | string _ | array _ | object _ => by
    simp only [receive, alternatives, growFirst]
    split
    · exact alternatives_of_slot (hf _)
    · rfl

theorem isNullable_receive (t : Shape) : (receive slot f t).isNullable = t.isNullable := by
  have hf' : ∀ o, (f o).isNullable = false := fun o => by
    have := hf o
    cases h : f o <;> simp_all [slot?, isNullable]
  cases t <;> simp only [receive] <;> (try split) <;> simp_all [isNullable]

end

/-! ## Taking in a value -/

theorem alternatives_absorb (d : Detectors) {v : Json} {slot : Slot} (h : v.slot? = some slot)
    (t : Shape) : alternatives (absorb d v t) = growFirst slot (grow d v) (alternatives t) := by
  rw [absorb_eq_receive d h, alternatives_receive (slot?_grow d h)]

theorem isNullable_absorb (d : Detectors) {v : Json} {slot : Slot} (h : v.slot? = some slot)
    (t : Shape) : (absorb d v t).isNullable = t.isNullable := by
  rw [absorb_eq_receive d h, isNullable_receive (slot?_grow d h)]

theorem alternatives_absorb_null (d : Detectors) (t : Shape) :
    alternatives (absorb d .null t) = alternatives t := by
  rw [absorb]
  cases t <;> rfl

theorem isNullable_absorb_null (d : Detectors) (t : Shape) :
    (absorb d .null t).isNullable = true := by
  rw [absorb]
  cases t <;> rfl

/-- A value changes what is known about its own slot, and nothing else. -/
theorem part?_absorb (d : Detectors) {v : Json} {slot : Slot} (h : v.slot? = some slot) (s : Slot)
    (t : Shape) :
    (absorb d v t).part? s = if s = slot then some (grow d v (t.part? slot)) else t.part? s := by
  rw [part?, alternatives_absorb d h, partOf?_growFirst (slot?_grow d h)]
  rfl

theorem part?_absorb_self (d : Detectors) {v : Json} {slot : Slot} (h : v.slot? = some slot)
    (t : Shape) : (absorb d v t).part? slot = some (grow d v (t.part? slot)) := by
  rw [part?_absorb d h, if_pos rfl]

theorem part?_absorb_null (d : Detectors) (s : Slot) (t : Shape) :
    (absorb d .null t).part? s = t.part? s := by
  rw [part?, alternatives_absorb_null]
  rfl

/-! ## Rebuilding -/

/-- The shape of given alternatives: none, one, or several of them. -/
def ofAlternatives : List Shape → Shape
  | [] => unknown
  | [t] => t
  | ts => anyOf ts

/-- The shape of given alternatives, nullable or not. -/
def rebuild (null : Bool) (ts : List Shape) : Shape :=
  if null then nullable (ofAlternatives ts) else ofAlternatives ts

/-- Shapes that can be the alternatives of one sound shape. -/
structure Parts (ts : List Shape) : Prop where
  slots : ∀ t ∈ ts, t.slot?.isSome = true
  nodup : (ts.map slot?).Nodup
  sound : ∀ t ∈ ts, t.Sound

theorem isNullable_of_slot {t : Shape} (h : t.slot?.isSome = true) : t.isNullable = false := by
  cases t <;> simp_all [slot?, isNullable]

theorem isNullable_ofAlternatives {ts : List Shape} (h : ∀ t ∈ ts, t.slot?.isSome = true) :
    (ofAlternatives ts).isNullable = false := by
  match ts, h with
  | [], _ => rfl
  | [t], h => exact isNullable_of_slot (h t List.mem_cons_self)
  | _ :: _ :: _, _ => rfl

theorem sound_ofAlternatives {ts : List Shape} (h : Parts ts) : (ofAlternatives ts).Sound := by
  match ts, h with
  | [], _ => trivial
  | [t], h => exact h.sound t List.mem_cons_self
  | t :: u :: ts, h =>
    refine ⟨by simp, h.nodup, soundAlternatives_iff.2 fun w hw => ⟨h.slots w hw, h.sound w hw⟩⟩

theorem sound_rebuild (null : Bool) {ts : List Shape} (h : Parts ts) : (rebuild null ts).Sound := by
  cases null with
  | false => exact sound_ofAlternatives h
  | true => exact ⟨isNullable_ofAlternatives h.slots, sound_ofAlternatives h⟩

theorem parts_alternatives : ∀ t : Shape, t.Sound → Parts t.alternatives
  | nullable inner, h => parts_alternatives inner h.2
  | unknown, _ => ⟨by simp [alternatives], by simp [alternatives], by simp [alternatives]⟩
  | anyOf _, ⟨_, hn, hs⟩ =>
    ⟨fun t ht => (soundAlternatives_iff.1 hs t ht).1, hn,
      fun t ht => (soundAlternatives_iff.1 hs t ht).2⟩
  | boolean, h | int _, h | float _, h | string _, h | array _, h | object _, h =>
    ⟨by simp [alternatives, slot?], by simp [alternatives], by simpa [alternatives] using h⟩

/-- A sound shape is rebuilt from its alternatives. -/
theorem rebuild_alternatives {t : Shape} (h : t.Sound) :
    rebuild t.isNullable t.alternatives = t := by
  have flat : ∀ {t : Shape}, t.Sound → t.isNullable = false → ofAlternatives t.alternatives = t := by
    intro t h hn
    match t, h, hn with
    | unknown, _, _ | boolean, _, _ | int _, _, _ | float _, _, _ | string _, _, _ | array _, _, _
    | object _, _, _ => rfl
    | nullable _, _, hn => cases hn
    | anyOf (_ :: _ :: _), _, _ => rfl
    | anyOf [], h, _ | anyOf [_], h, _ => exact absurd h.1 (by simp)
  match t, h with
  | nullable inner, h => exact congrArg nullable (flat h.2 h.1)
  | unknown, h | boolean, h | int _, h | float _, h | string _, h | array _, h | object _, h
  | anyOf _, h => exact flat h rfl

/-- Taking in a value is growing the alternatives. -/
theorem absorb_rebuild (d : Detectors) {v : Json} {slot : Slot} (h : v.slot? = some slot)
    (null : Bool) {ts : List Shape} (hts : ∀ t ∈ ts, t.slot?.isSome = true) :
    absorb d v (rebuild null ts) = rebuild null (growFirst slot (grow d v) ts) := by
  have flat : receive slot (grow d v) (ofAlternatives ts) =
      ofAlternatives (growFirst slot (grow d v) ts) := by
    match ts, hts with
    | [], _ => rfl
    | [t], hts =>
      have ht := hts t List.mem_cons_self
      cases t <;> simp only [ofAlternatives, receive, growFirst] <;>
        first | (split <;> rfl) | simp [slot?] at ht
    | t :: u :: ts, _ =>
      simp only [ofAlternatives, receive, growFirst]
      split
      · rfl
      · split <;> rfl
  rw [absorb_eq_receive d h]
  cases null with
  | false => exact flat
  | true => exact congrArg nullable flat

theorem absorb_null_rebuild (d : Detectors) (null : Bool) {ts : List Shape}
    (hts : ∀ t ∈ ts, t.slot?.isSome = true) :
    absorb d .null (rebuild null ts) = rebuild true ts := by
  rw [absorb]
  cases null with
  | true => rfl
  | false =>
    have := isNullable_ofAlternatives hts
    simp only [rebuild, if_true, Bool.false_eq_true, if_false]
    cases h : ofAlternatives ts <;> simp_all [receiveNull, isNullable]

end Shape

end JsonShape
