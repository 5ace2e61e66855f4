import Mathlib.Data.String.Basic
import JsonShape.Proofs.Shape.Join
import JsonShape.Proofs.Shape.Nodes
import JsonShape.Proofs.Shape.Outline

/-!
# Required and optional keys

An object that comes leaves no key out, puts none into both groups and takes in each of its values
once (`takenIn_absorbMembers`). A key that is optional stays optional, whatever objects come to the same
fields (`optionalStays_takeInAll`).

In a tree this is said place by place. A place is a way down through items and keys; alternatives and
null do not count, so that a place stays where it is when a shape widens. What is above a shape has its
places, and what is optional there is so too (`optionalStays_of_below`), and in a well-formed tree every
object shape stands at a place (`exists_fieldsAt?`).
-/

set_option autoImplicit false

namespace JsonShape

open Shape

/-! ## One object -/

namespace Fields

section
variable {α : Type} {f g h : Fields α} {key : String}

theorem mem_optional_iff (proper : f.Proper) : key ∈ Entries.keys f.optional ↔
    (f.get? key).isSome = true ∧ f.isRequired key = false := by
  rw [isSome_get?_iff, ← Bool.not_eq_true, isRequired_iff]
  have apart := proper.apart key
  tauto

/-- What is optional in `f` is optional in `g`, and not required. -/
def OptionalStays (f g : Fields α) : Prop :=
  ∀ key ∈ Entries.keys f.optional, key ∈ Entries.keys g.optional ∧ key ∉ Entries.keys g.required

theorem OptionalStays.trans (first : OptionalStays f g) (second : OptionalStays g h) :
    OptionalStays f h := fun key hk => second key (first key hk).1

/-- Fields of which nothing gets lost and nothing becomes required. -/
theorem optionalStays_of_isRequired (hf : f.Proper) (hg : g.Proper)
    (known : ∀ key, (f.get? key).isSome = true → (g.get? key).isSome = true)
    (required : ∀ key, g.isRequired key = true → f.isRequired key = true) : OptionalStays f g := by
  intro key hk
  obtain ⟨some, lacked⟩ := (mem_optional_iff hf).1 hk
  have lacks : g.isRequired key = false := by
    rw [← Bool.not_eq_true]
    intro now
    rw [required key now] at lacked
    cases lacked
  exact ⟨(mem_optional_iff hg).2 ⟨known key some, lacks⟩,
    fun now => Bool.eq_false_iff.1 lacks (isRequired_iff.2 now)⟩

end

/-- What fields are once an object with given members has come. -/
structure TakenIn (d : Detectors) (members : Entries Json) (f g : Fields Shape) : Prop where
  /-- Both groups are in order, and no key is in both. -/
  proper : g.Proper
  /-- A key is required if it was and the object has it. -/
  required : ∀ key, key ∈ Entries.keys g.required ↔
    key ∈ Entries.keys f.required ∧ key ∈ Entries.keys members
  /-- The keys are those known before and those of the object. -/
  all : ∀ key, key ∈ Entries.keys g.required ∨ key ∈ Entries.keys g.optional ↔
    (key ∈ Entries.keys f.required ∨ key ∈ Entries.keys f.optional) ∨ key ∈ Entries.keys members
  /-- What is known about a key has taken in the value that the object has under it, if any. -/
  known : ∀ key, g.get? key =
    match f.get? key, Entries.get? key members with
    | some t, some v => some (absorb d v t)
    | some t, none => some t
    | none, some v => some (absorb d v unknown)
    | none, none => none

end Fields

namespace Shape

open Fields

/-! ## Objects one after another -/

section
variable {f : Fields Shape} {members : Entries Json} (d : Detectors)

theorem get?_absorbMembers_retire (hf : f.Proper) (nodup : (Entries.keys members).Nodup)
    (key : String) : (absorbMembers d members (f.retire members)).get? key =
      match f.get? key, Entries.get? key members with
      | some t, some v => some (absorb d v t)
      | some t, none => some t
      | none, some v => some (absorb d v unknown)
      | none, none => none := by
  rw [get?_absorbMembers d nodup, get?_retire hf.required]
  cases f.get? key <;> cases Entries.get? key members <;> rfl

/-- What an object leaves of fields. -/
theorem takenIn_absorbMembers (hf : f.Proper) (nodup : (Entries.keys members).Nodup) :
    TakenIn d members f (absorbMembers d members (f.retire members)) where
  proper := proper_absorbMembers d members hf.retire
  required key := by
    rw [← isRequired_iff, isRequired_absorbMembers, isRequired_retire, Bool.and_eq_true,
      isRequired_iff, Entries.has_iff_mem_keys]
  all key := by
    rw [← isSome_get?_iff, ← isSome_get?_iff, get?_absorbMembers_retire d hf nodup,
      ← Entries.has_iff_mem_keys, Entries.has]
    cases f.get? key <;> cases Entries.get? key members <;> simp
  known := get?_absorbMembers_retire d hf nodup

end

theorem optionalStays_of_takenIn {d : Detectors} {members : Entries Json} {f g : Fields Shape}
    (hf : f.Proper) (h : TakenIn d members f g) : OptionalStays f g := by
  refine optionalStays_of_isRequired hf h.proper (fun key some => ?_) fun key now => ?_
  · rw [isSome_get?_iff, h.all]
    exact .inl (isSome_get?_iff.1 some)
  · exact isRequired_iff.2 ((h.required key).1 (isRequired_iff.1 now)).1

/-- Fields once several objects have come, each with what is looked for in its strings. -/
def takeInAll (objects : List (Detectors × Entries Json)) (f : Fields Shape) : Fields Shape :=
  objects.foldl (fun g o => absorbMembers o.1 o.2 (g.retire o.2)) f

/-- However many objects come, what is optional stays optional. -/
theorem optionalStays_takeInAll {objects : List (Detectors × Entries Json)} {f : Fields Shape}
    (hf : f.Proper) (nodup : ∀ o ∈ objects, (Entries.keys o.2).Nodup) :
    OptionalStays f (takeInAll objects f) := by
  induction objects generalizing f with
  | nil => exact fun key hk => ⟨hk, fun required => hf.apart key required hk⟩
  | cons o objects ih =>
    rw [List.forall_mem_cons] at nodup
    have first := takenIn_absorbMembers o.1 hf nodup.1
    exact (optionalStays_of_takenIn hf first).trans (ih first.proper nodup.2)

/-! ## Places -/

/-- A step down a tree. -/
inductive Down where
  /-- To the items of arrays. -/
  | items
  /-- To the values that objects have under a key. -/
  | under (key : String)

/-- What is known about the keys of the objects at a place. -/
def fieldsAt? (t : Shape) : List Down → Option (Fields Shape)
  | [] => t.knownFields
  | .items :: place => t.knownItems?.bind fun s => s.fieldsAt? place
  | .under key :: place => (known? key t.knownFields).bind fun s => s.fieldsAt? place

/-- Whatever is optional at a place of `t` is optional at that place of `u`. -/
def OptionalStays (t u : Shape) : Prop :=
  ∀ place f, t.fieldsAt? place = some f →
    ∃ g, u.fieldsAt? place = some g ∧ Fields.OptionalStays f g

section
variable {t u : Shape} (ht : t.WellFormed) (hu : u.WellFormed) (below : Below t u)
include ht hu below

theorem knownFields_of_below {f : Fields Shape} (hf : t.knownFields = some f) :
    ∃ g, u.knownFields = some g ∧ Below (object f) (object g) := by
  obtain ⟨q, hq, hfq⟩ := ((below_iff_parts ht.sound hu.sound).1 below).2 .object _
    (part?_of_mem_knownFields hf)
  have slot := slot?_of_partOf? hq
  cases q <;> cases slot
  exact ⟨_, knownFields_of_part? hq, hfq⟩

theorem knownItems?_of_below {s : Shape} (hs : t.knownItems? = some s) :
    ∃ r, u.knownItems? = some r ∧ s.WellFormed ∧ r.WellFormed ∧ Below s r := by
  obtain ⟨p, hp, hps⟩ := Option.bind_eq_some_iff.1 hs
  obtain ⟨q, hq, hpq⟩ := ((below_iff_parts ht.sound hu.sound).1 below).2 .array _ hp
  have pslot := slot?_of_partOf? hp
  have qslot := slot?_of_partOf? hq
  cases p <;> cases pslot
  cases q <;> cases qslot
  obtain rfl := Option.some.inj hps
  refine ⟨_, by rw [knownItems?, hq]; rfl, wellFormed_array.1 (ht.part? hp),
    wellFormed_array.1 (hu.part? hq), below_array_iff.1 hpq⟩

theorem known?_of_below {key : String} {s : Shape} (hs : known? key t.knownFields = some s) :
    ∃ r, known? key u.knownFields = some r ∧ s.WellFormed ∧ r.WellFormed ∧ Below s r := by
  obtain ⟨f, hf, hfs⟩ := Option.bind_eq_some_iff.1 hs
  obtain ⟨g, hg, hfg⟩ := knownFields_of_below ht hu below hf
  obtain ⟨r, hr, hsr⟩ := (below_object_iff.1 hfg).1 key s hfs
  have known : known? key u.knownFields = some r := by rw [hg]; exact hr
  exact ⟨r, known, (ht.known? hs).2, (hu.known? known).2, hsr⟩

end

/-- What is above a shape has all of its places, and what is optional there is so too. -/
theorem optionalStays_of_below {t u : Shape} (ht : t.WellFormed) (hu : u.WellFormed)
    (below : Below t u) : t.OptionalStays u := by
  intro place f hf
  induction place generalizing t u with
  | nil =>
    obtain ⟨g, hg, hfg⟩ := knownFields_of_below ht hu below hf
    obtain ⟨known, required⟩ := below_object_iff.1 hfg
    refine ⟨g, hg, optionalStays_of_isRequired (ht.knownFields hf).1 (hu.knownFields hg).1
      (fun key some => ?_) required⟩
    obtain ⟨s, hs⟩ := Option.isSome_iff_exists.1 some
    obtain ⟨r, hr, -⟩ := known key s hs
    rw [hr, Option.isSome_some]
  | cons step place ih =>
    cases step with
    | items =>
      obtain ⟨s, hs, hf⟩ := Option.bind_eq_some_iff.1 hf
      obtain ⟨r, hr, hsw, hrw, hsr⟩ := knownItems?_of_below ht hu below hs
      obtain ⟨g, hg, stays⟩ := ih hsw hrw hsr hf
      exact ⟨g, Option.bind_eq_some_iff.2 ⟨r, hr, hg⟩, stays⟩
    | under key =>
      obtain ⟨s, hs, hf⟩ := Option.bind_eq_some_iff.1 hf
      obtain ⟨r, hr, hsw, hrw, hsr⟩ := known?_of_below ht hu below hs
      obtain ⟨g, hg, stays⟩ := ih hsw hrw hsr hf
      exact ⟨g, Option.bind_eq_some_iff.2 ⟨r, hr, hg⟩, stays⟩

/-! ## Every object has a place -/

/-- A shape that knows what another one knows has all of its places. -/
theorem fieldsAt?_of_parts {t u : Shape}
    (parts : ∀ slot p, t.part? slot = some p → u.part? slot = some p) {place : List Down}
    {f : Fields Shape} (hf : t.fieldsAt? place = some f) : u.fieldsAt? place = some f := by
  have fields : ∀ g, t.knownFields = some g → u.knownFields = some g := fun g hg =>
    knownFields_of_part? (parts _ _ (part?_of_mem_knownFields hg))
  cases place with
  | nil => exact fields f hf
  | cons step place =>
    cases step with
    | items =>
      obtain ⟨s, hs, hf⟩ := Option.bind_eq_some_iff.1 hf
      obtain ⟨p, hp, hps⟩ := Option.bind_eq_some_iff.1 hs
      exact Option.bind_eq_some_iff.2 ⟨s, Option.bind_eq_some_iff.2 ⟨p, parts _ _ hp, hps⟩, hf⟩
    | under key =>
      obtain ⟨s, hs, hf⟩ := Option.bind_eq_some_iff.1 hf
      obtain ⟨g, hg, hgs⟩ := Option.bind_eq_some_iff.1 hs
      exact Option.bind_eq_some_iff.2 ⟨s, Option.bind_eq_some_iff.2 ⟨g, fields g hg, hgs⟩, hf⟩

/-- Every object shape in a well-formed tree stands at a place. -/
theorem exists_fieldsAt? {t : Shape} (ht : t.WellFormed) {f : Fields Shape}
    (node : Node (object f) t) : ∃ place, t.fieldsAt? place = some f := by
  induction t using Shape.induct with
  | unknown | boolean | int _ | float _ | string _ =>
    obtain _ | ⟨hu, -⟩ := node
    exact absurd hu List.not_mem_nil
  | array items ih =>
    obtain _ | ⟨hu, hs⟩ := node
    obtain rfl := List.mem_singleton.1 hu
    obtain ⟨place, hf⟩ := ih (wellFormed_array.1 ht) hs
    exact ⟨.items :: place, hf⟩
  | object required optional ihr iho =>
    obtain ⟨proper, known⟩ := wellFormed_object.1 ht
    have under : ∀ {key u place}, Fields.get? ⟨required, optional⟩ key = some u →
        u.fieldsAt? place = some f →
        (object ⟨required, optional⟩).fieldsAt? (.under key :: place) = some f := fun hg hf =>
      Option.bind_eq_some_iff.2 ⟨_, hg, hf⟩
    obtain _ | ⟨hu, hs⟩ := node
    · exact ⟨[], rfl⟩
    · rcases mem_children_object.1 hu with ⟨e, he, rfl⟩ | ⟨e, he, rfl⟩
      · have hg := get?_of_mem_required proper he
        obtain ⟨place, hf⟩ := ihr e he (known e.1 e.2 hg).2 hs
        exact ⟨.under e.1 :: place, under hg hf⟩
      · have hg := get?_of_mem_optional proper he
        obtain ⟨place, hf⟩ := iho e he (known e.1 e.2 hg).2 hs
        exact ⟨.under e.1 :: place, under hg hf⟩
  | nullable inner ih =>
    obtain _ | ⟨hu, hs⟩ := node
    rw [List.mem_singleton.1 hu] at hs
    obtain ⟨place, hf⟩ := ih (wellFormed_nullable.1 ht).2 hs
    exact ⟨place, fieldsAt?_of_parts (fun slot p hp => (part?_nullable slot inner).trans hp) hf⟩
  | anyOf alternatives ih =>
    obtain ⟨-, nodup, each⟩ := wellFormed_anyOf.1 ht
    obtain _ | ⟨hu, hs⟩ := node
    obtain ⟨place, hf⟩ := ih _ hu (each _ hu).2 hs
    obtain ⟨slot, hslot⟩ := Option.isSome_iff_exists.1 (each _ hu).1
    refine ⟨place, fieldsAt?_of_parts (fun other p hp => ?_) hf⟩
    -- an alternative is all that is known about its own slot
    have hm := mem_of_partOf? hp
    rw [alternatives_of_slot hslot, List.mem_singleton] at hm
    rw [hm] at hp ⊢
    exact partOf?_of_mem nodup hu (slot?_of_partOf? hp)

end Shape

end JsonShape
