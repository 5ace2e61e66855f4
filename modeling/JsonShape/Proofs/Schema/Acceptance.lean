import Mathlib.Data.String.Basic
import JsonShape.Proofs.Schema.Bounds
import JsonShape.Proofs.Shape.Covering

/-!
# The schema of a shape accepts what the shape covers

`accepts_toSchema`: the schema of a well-formed shape, rendered with any options, accepts every value
that the shape covers, formats being read as assertions (`TextFormat.asserts`). The induction is on
the shape; a covered value is one of null or of the slots that the shape has alternatives for
(`slot?_of_covers`), and the schema of an alternative names one type (`typed_toSchema`), which is what
lets a nullable one accept null.
-/

set_option autoImplicit false

namespace JsonShape

/-- A format keyword, read as an assertion: the string has the format of that name. -/
def TextFormat.asserts (name s : String) : Bool :=
  (TextFormat.ofName? name).any fun format => format.recognises s

theorem TextFormat.ofName?_name (f : TextFormat) : ofName? f.name = some f := by
  cases f <;> decide

theorem TextFormat.asserts_of_schemaName? {f : TextFormat} {name s : String}
    (h : f.schemaName? = some name) (hs : f.recognises s = true) : asserts name s = true := by
  have hn : name = f.name := by
    cases f <;> simp only [schemaName?, Option.some.injEq, reduceCtorEq] at h <;> exact h.symm
  rw [asserts, hn, ofName?_name, Option.any_some, hs]

/-- A node that names one type, not null, and has no alternatives. -/
structure Schema.Typed (s : Schema) : Prop where
  types : ∃ ty, ty ≠ TypeName.null ∧ s.types = some (.one ty)
  anyOf : s.anyOf = none
  not : s.not = none

theorem Schema.Typed.admitsNull {s : Schema} (h : s.Typed) : s.admitsNull = false := by
  obtain ⟨ty, hne, ht⟩ := h.types
  simp only [Schema.admitsNull, ht, TypeSet.admitsNull, TypeSet.toList]
  cases ty <;> first | rfl | exact absurd rfl hne

namespace Shape

/-! ## Values and alternatives -/

/-- A covered value has its slot among the shape's. -/
theorem part?_isSome_of_covers {v : Json} {t : Shape} {slot : Slot} (hs : v.slot? = some slot)
    (h : Covers v t) : ∃ u, t.part? slot = some u ∧ Covers v u := by
  have part : ∃ u, t.part? slot = some u := by
    cases v with
    | null => cases hs
    | bool _ => cases hs; exact ⟨_, h⟩
    | number n =>
      cases hs
      obtain ⟨range, -, hp | ⟨-, hp⟩⟩ := h <;> exact ⟨_, hp⟩
    | string s => cases hs; obtain ⟨f, hp, -⟩ := h; exact ⟨_, hp⟩
    | array items => cases hs; obtain ⟨s, hp, -⟩ := h; exact ⟨_, hp⟩
    | object members => cases hs; obtain ⟨f, hp, -⟩ := h; exact ⟨_, hp⟩
  obtain ⟨u, hu⟩ := part
  refine ⟨u, hu, covers_of_part?_eq hs ?_ h⟩
  rw [hu, part?_of_slot (slot?_of_partOf? hu)]

/-- What is covered by a shape of one slot is of that slot. -/
theorem slot?_of_covers {v : Json} {t : Shape} {slot : Slot} (ht : t.slot? = some slot)
    (h : Covers v t) : v.slot? = some slot := by
  cases hv : v.slot? with
  | none =>
    obtain rfl := Json.slot?_eq_none_iff.1 hv
    rw [Covers, isNullable_of_slot (by rw [ht]; rfl)] at h
    cases h
  | some s =>
    obtain ⟨u, hu, -⟩ := part?_isSome_of_covers hv h
    have hm := mem_of_partOf? hu
    rw [alternatives_of_slot ht, List.mem_singleton] at hm
    rw [← slot?_of_partOf? hu, hm, ht]

theorem not_covers_of_isUnknown {v : Json} {t : Shape} (ht : t.isUnknown = true) :
    ¬ Covers v t := by
  intro h
  obtain rfl : t = unknown := by cases t <;> first | rfl | cases ht
  cases hv : v.slot? with
  | none => rw [Json.slot?_eq_none_iff.1 hv] at h; cases h
  | some slot =>
    obtain ⟨u, hu, -⟩ := part?_isSome_of_covers hv h
    cases hu

/-- A value that a nullable shape covers is null, or covered without it. -/
theorem covers_nullable {v : Json} {t : Shape} (h : Covers v (nullable t)) :
    v = .null ∨ Covers v t := by
  cases hv : v.slot? with
  | none => exact .inl (Json.slot?_eq_none_iff.1 hv)
  | some slot => exact .inr (covers_of_part?_eq hv (part?_nullable slot t).symm h)

/-- A value that alternatives cover is covered by one of them. -/
theorem covers_anyOf {v : Json} {ts : List Shape} (h : Covers v (anyOf ts)) :
    ∃ t ∈ ts, Covers v t := by
  cases hv : v.slot? with
  | none => rw [Json.slot?_eq_none_iff.1 hv] at h; cases h
  | some slot =>
    obtain ⟨u, hu, hc⟩ := part?_isSome_of_covers hv h
    exact ⟨u, mem_of_partOf? hu, hc⟩

/-! ## Nodes -/

variable (options : RenderOptions)

/-- The schema of a shape of one slot names one type. -/
theorem typed_toSchema {t : Shape} (h : t.slot?.isSome = true) : (t.toSchema options).Typed := by
  have bounded : ∀ (ty : TypeName) (bounds : Option (Number × Number)), ty ≠ .null →
      ((Schema.ofType ty).withBounds? bounds).Typed := by
    intro ty bounds hty
    cases bounds <;> exact ⟨⟨ty, hty, rfl⟩, rfl, rfl⟩
  cases t with
  | boolean => exact ⟨⟨_, by decide, rfl⟩, rfl, rfl⟩
  | int range => exact bounded _ _ (by decide)
  | float range => exact bounded _ _ (by decide)
  | string format => exact ⟨⟨.string, by decide, rfl⟩, rfl, rfl⟩
  | array items =>
    rw [toSchema]
    split <;> exact ⟨⟨.array, by decide, rfl⟩, rfl, rfl⟩
  | object f => exact ⟨⟨.object, by decide, rfl⟩, rfl, rfl⟩
  | unknown => cases h
  | nullable _ => cases h
  | anyOf _ => cases h

theorem toAlternatives_eq_map (ts : List Shape) :
    toAlternatives options ts = ts.map (toSchema options) := by
  induction ts with
  | nil => rfl
  | cons t ts ih => rw [toAlternatives, ih, List.map_cons]

theorem toSchema_anyOf {ts : List Shape} (h : 2 ≤ ts.length) :
    (anyOf ts).toSchema options = .alternatives (ts.map (toSchema options)) := by
  rw [toSchema, toAlternatives_eq_map]
  match ts, h with
  | _ :: _ :: _, _ => rfl

theorem get?_toSchemas (key : String) (es : List (String × Shape)) :
    Entries.get? key (toSchemas options es) = (Entries.get? key es).map (toSchema options) := by
  induction es with
  | nil => rfl
  | cons e es ih =>
    obtain ⟨k, t⟩ := e
    rw [toSchemas, Entries.get?, Entries.get?, ih]
    split <;> rfl

theorem keys_toSchemas (es : List (String × Shape)) :
    Entries.keys (toSchemas options es) = Entries.keys es := by
  induction es with
  | nil => rfl
  | cons e es ih =>
    obtain ⟨k, t⟩ := e
    simp only [toSchemas, Entries.keys, List.map_cons] at ih ⊢
    rw [ih]

/-- The schemas of properties are those of what is known about each key. -/
theorem mem_properties_iff {f : Fields Shape} (hf : f.Proper) {p : String × Schema} :
    p ∈ Entries.union (Entries.ofList (toSchemas options f.required))
        (toSchemas options f.optional) ↔
      ∃ t, f.get? p.1 = some t ∧ t.toSchema options = p.2 := by
  have nodup (es : Entries Shape) (h : Entries.Ordered es) :
      (Entries.keys (toSchemas options es)).Nodup := by
    rw [keys_toSchemas]
    exact h.nodup
  have ordered := (Entries.ordered_ofList (toSchemas options f.required)).union
    (toSchemas options f.optional)
  have hget : Entries.get? p.1 (Entries.union (Entries.ofList (toSchemas options f.required))
      (toSchemas options f.optional)) = (f.get? p.1).map (toSchema options) := by
    rw [Entries.get?_union (nodup _ hf.optional), Entries.get?_ofList (nodup _ hf.required),
      get?_toSchemas, get?_toSchemas, ← Option.map_or, ← Fields.get?_eq_or_required hf]
  rw [← Option.map_eq_some_iff, ← hget]
  exact ⟨fun hp => Entries.get?_of_mem ordered.nodup hp, Entries.mem_of_get?⟩

theorem forall_properties_iff {f : Fields Shape} (hf : f.Proper) (P : String → Schema → Prop) :
    (∀ p ∈ Entries.union (Entries.ofList (toSchemas options f.required))
        (toSchemas options f.optional), P p.1 p.2) ↔
      ∀ key t, f.get? key = some t → P key (t.toSchema options) := by
  constructor
  · intro h key t hg
    exact h (key, t.toSchema options) ((mem_properties_iff options hf).2 ⟨t, hg, rfl⟩)
  · intro h p hp
    obtain ⟨t, hg, hschema⟩ := (mem_properties_iff options hf).1 hp
    rw [← hschema]
    exact h p.1 t hg

/-! ## Acceptance -/

section Leaves

variable {options : RenderOptions} {n : Number} {range : Interval}

theorem admits_integer (h : n.isIntegral = true) : TypeName.integer.admits (.number n) = true := by
  obtain ⟨k, hk⟩ := Number.exists_position_eq_mul h
  rw [TypeName.admits, hk, Int.mul_emod_left]
  rfl

/-- The schema of a range of integers accepts the integers in it. -/
theorem accepts_int (hn : n.isIntegral = true) (hr : range.contains n.toDouble = true) :
    ((int range).toSchema options).accepts TextFormat.asserts (.number n) = true := by
  rw [toSchema]
  cases hb : range.intBounds? options with
  | none => rw [Schema.withBounds?, Schema.accepts_ofType, admits_integer hn]
  | some bounds =>
    obtain ⟨lo, hi⟩ := bounds
    obtain ⟨hlo, hhi⟩ := Interval.le_intBounds? hb hn hr
    rw [Schema.withBounds?, Schema.accepts_withBounds, admits_integer hn]
    simp [hlo, hhi]

/-- The schema of a range of doubles accepts the numbers in it. -/
theorem accepts_float (hr : range.contains n.toDouble = true) :
    ((float range).toSchema options).accepts TextFormat.asserts (.number n) = true := by
  rw [toSchema]
  cases hb : range.floatBounds? options with
  | none => rw [Schema.withBounds?, Schema.accepts_ofType, TypeName.admits]
  | some bounds =>
    obtain ⟨lo, hi⟩ := bounds
    obtain ⟨hlo, hhi⟩ := Interval.le_floatBounds? hb hr
    rw [Schema.withBounds?, Schema.accepts_withBounds, TypeName.admits]
    simp [hlo, hhi]

theorem accepts_string {format : Option TextFormat} {s : String}
    (h : ∀ f ∈ format, f.recognises s = true) :
    ((string format).toSchema options).accepts TextFormat.asserts (.string s) = true := by
  rw [toSchema, Schema.accepts_string]
  cases format with
  | none => rfl
  | some f =>
    rw [Option.bind_some]
    cases hf : f.schemaName? with
    | none => rfl
    | some name => exact TextFormat.asserts_of_schemaName? hf (h f rfl)

end Leaves

/-- The schema of a sound shape that does not admit null, once nullable, accepts null too, and
nothing else. -/
theorem accepts_nullable_iff {t : Shape} (ht : t.Sound) (hu : t.isUnknown = false)
    (hn : t.isNullable = false) {formats : String → String → Bool} {v : Json} :
    (t.toSchema options).nullable.accepts formats v = true ↔
      v = .null ∨ (t.toSchema options).accepts formats v = true := by
  cases hs : t.slot? with
  | some slot =>
    have typed := typed_toSchema options (t := t) (by rw [hs]; rfl)
    obtain ⟨ty, -, hty⟩ := typed.types
    exact Schema.accepts_nullable_iff_of_types (by rw [hty]; rfl) typed.anyOf typed.not
  | none =>
    cases t with
    | unknown => cases hu
    | nullable _ => cases hn
    | anyOf ts =>
      rw [toSchema_anyOf options ht.1]
      refine Schema.accepts_nullable_iff_of_alternatives fun s hs => ?_
      obtain ⟨t, hm, rfl⟩ := List.mem_map.1 hs
      exact (typed_toSchema options (soundAlternatives_iff.1 ht.2.2 t hm).1).admitsNull
    | _ => cases hs

/-- The schema of a shape accepts what the shape covers. -/
theorem accepts_toSchema {t : Shape} (ht : t.WellFormed) {v : Json} (h : Covers v t) :
    (t.toSchema options).accepts TextFormat.asserts v = true := by
  induction t using Shape.induct generalizing v with
  | unknown => exact absurd h (not_covers_of_isUnknown rfl)
  | boolean =>
    have hs := slot?_of_covers (t := boolean) rfl h
    cases v <;> cases hs
    rw [toSchema, Schema.accepts_ofType, TypeName.admits]
  | int range =>
    have hs := slot?_of_covers (t := int range) rfl h
    cases v <;> cases hs
    obtain ⟨range', hr, hp | ⟨hn, hp⟩⟩ := h <;> cases hp
    exact accepts_int hn hr
  | float range =>
    have hs := slot?_of_covers (t := float range) rfl h
    cases v <;> cases hs
    obtain ⟨range', hr, hp | ⟨-, hp⟩⟩ := h <;> cases hp
    exact accepts_float hr
  | string format =>
    have hs := slot?_of_covers (t := string format) rfl h
    cases v <;> cases hs
    obtain ⟨format', hp, hf⟩ := h
    cases hp
    exact accepts_string hf
  | array s ih =>
    have hs := slot?_of_covers (t := array s) rfl h
    cases v <;> cases hs
    obtain ⟨s', hp, hc⟩ := h
    cases hp
    have hc := coversItems_iff.1 hc
    rw [toSchema]
    split
    · next hu =>
      -- no item has been seen, so none is covered
      rw [Schema.accepts_emptyArray, List.isEmpty_iff]
      exact List.eq_nil_iff_forall_not_mem.2 fun v hv => not_covers_of_isUnknown hu (hc v hv)
    · rw [Schema.accepts_array, List.all_eq_true]
      exact fun v hv => ih (wellFormed_array.1 ht) (hc v hv)
  | object required optional ihr iho =>
    have hs := slot?_of_covers (t := object ⟨required, optional⟩) rfl h
    cases v <;> cases hs
    obtain ⟨f, hp, hreq, hm⟩ := h
    cases hp
    obtain ⟨proper, hf⟩ := wellFormed_object.1 ht
    rw [toSchema, Schema.accepts_object, Bool.and_eq_true, Schema.membersAccept_iff,
      List.all_eq_true]
    refine ⟨(forall_properties_iff options proper
      fun key s => ∀ w ∈ Entries.get? key _, s.accepts TextFormat.asserts w = true).2 ?_,
      fun key hk => hreq key (Entries.has_iff_mem_keys.2 hk)⟩
    intro key t hget w hw
    obtain ⟨t', hget', hc⟩ := coversMembers_iff.1 hm _ (Entries.mem_of_get? hw)
    obtain rfl : t = t' := Option.some.inj (hget.symm.trans hget')
    rcases Fields.mem_of_get? hget with hmem | hmem
    · exact ihr _ hmem (hf _ _ hget).2 hc
    · exact iho _ hmem (hf _ _ hget).2 hc
  | nullable t ih =>
    obtain ⟨hn, inner⟩ := wellFormed_nullable.1 ht
    have hc := covers_nullable h
    rw [toSchema]
    split
    · next hu =>
      -- null alone has been seen
      have hv := hc.resolve_right (not_covers_of_isUnknown hu)
      rw [hv, Schema.accepts_ofType, TypeName.admits]
    · next hu =>
      rw [accepts_nullable_iff options inner.sound (Bool.not_eq_true _ ▸ hu) hn]
      exact hc.imp_right (ih inner)
  | anyOf ts ih =>
    obtain ⟨t, hm, hc⟩ := covers_anyOf h
    obtain ⟨many, -, each⟩ := wellFormed_anyOf.1 ht
    rw [toSchema_anyOf options many, Schema.accepts_alternatives, Schema.someAccepts_iff]
    exact ⟨_, List.mem_map_of_mem hm, ih t hm (each t hm).2 hc⟩

/-- The draft does not matter. -/
theorem accepts_document {t : Shape} (ht : t.WellFormed) {v : Json} (h : Covers v t) :
    (t.toDocument options).accepts TextFormat.asserts v = true := by
  unfold toDocument
  split
  · rw [Schema.accepts_toDocument]
    exact accepts_toSchema options ht h
  · exact accepts_toSchema options ht h

end Shape

end JsonShape
