import Mathlib.Data.String.Basic
import JsonShape.Proofs.Schema.Validity

/-!
# Letting null in

`Schema.nullable` adds null to what a schema accepts and nothing else (`nullable_adds_null`), for every
schema that is put together by the ways of making one, in any order and to any depth
(`Schema.Built`); and for any schema at all, doing so twice is doing so once.

What `nullable` can do is said once, in `nullable_cases`. A schema that is put together has at most
one of `type`, `anyOf` and `not` (`Built.oneForm`), so what its types admit is not taken back by
another keyword. For alternatives this is needed one step down as well: no alternative is added if
the types of one of them admit null.
-/

set_option autoImplicit false

namespace JsonShape

namespace TypeSet

theorem admitsNull_withNull (types : TypeSet) : types.withNull.admitsNull = true := by
  unfold withNull
  split
  · assumption
  · simp [admitsNull, toList]

theorem withNull_eq_self {types : TypeSet} (h : types.admitsNull = true) :
    types.withNull = types := by
  rw [withNull, if_pos h]

end TypeSet

namespace Schema

variable {formats : String → String → Bool} {v : Json} {s : Schema} {schemas : List Schema}

/-! ## How null is let in -/

theorem nullable_of_types {types : TypeSet} (h : s.types = some types) :
    s.nullable = { s with types := some types.withNull } := by
  unfold nullable
  rw [h]

/-- Alternatives of which one admits null by its types are left as they are. -/
theorem nullable_eq_self (types : s.types = none) (anyOf : s.anyOf = some schemas)
    (admitted : schemas.any admitsNull = true) : s.nullable = s := by
  unfold nullable
  rw [types, anyOf]
  simp only [admitted, if_true]

/-- Null is let in by the types; beside a schema that has none and no alternatives; by an alternative
that is there already; or by one more. -/
theorem nullable_cases (s : Schema) :
    (∃ types, s.types = some types ∧ s.nullable = { s with types := some types.withNull }) ∨
    (s.types = none ∧ s.anyOf = none ∧ s.nullable = alternatives [s, ofType .null]) ∨
    (∃ schemas, s.types = none ∧ s.anyOf = some schemas ∧ schemas.any admitsNull = true ∧
      s.nullable = s) ∨
    (∃ schemas, s.types = none ∧ s.anyOf = some schemas ∧
      s.nullable = { s with anyOf := some (schemas ++ [ofType .null]) }) := by
  cases types : s.types with
  | some ts => exact .inl ⟨ts, rfl, nullable_of_types types⟩
  | none =>
    cases anyOf : s.anyOf with
    | none =>
      refine .inr (.inl ⟨rfl, rfl, ?_⟩)
      unfold nullable
      rw [types, anyOf]
    | some schemas =>
      by_cases admitted : schemas.any admitsNull = true
      · exact .inr (.inr (.inl ⟨schemas, rfl, rfl, admitted, nullable_eq_self types anyOf admitted⟩))
      · refine .inr (.inr (.inr ⟨schemas, rfl, rfl, ?_⟩))
        unfold nullable
        rw [types, anyOf]
        simp only [admitted, if_false, Bool.false_eq_true]

/-- A schema that has let null in lets it in no second time. -/
theorem nullable_nullable (s : Schema) : s.nullable.nullable = s.nullable := by
  have null : (ofType .null).admitsNull = true := rfl
  obtain ⟨types, -, eq⟩ | ⟨-, -, eq⟩ | ⟨schemas, -, -, -, eq⟩ | ⟨schemas, types, -, eq⟩ :=
    nullable_cases s
  · rw [eq, nullable_of_types rfl, TypeSet.withNull_eq_self types.admitsNull_withNull]
  · rw [eq]
    exact nullable_eq_self rfl rfl (by simp [null])
  · rw [eq, eq]
  · rw [eq]
    exact nullable_eq_self types rfl (by simp [null])

/-! ## Schemas that are put together -/

/-- A schema is put together by the ways of making one, each part of it too. -/
inductive Built : Schema → Prop where
  | anything : Built anything
  | ofType (t : TypeName) : Built (ofType t)
  | string (format : Option String) : Built (string format)
  | array {items : Schema} : Built items → Built (array items)
  | emptyArray : Built emptyArray
  | object {properties : Entries Schema} (required : List String) :
      (∀ p ∈ properties, Built p.2) → Built (object properties required)
  | alternatives {schemas : List Schema} : (∀ s ∈ schemas, Built s) → Built (alternatives schemas)
  | nothing : Built nothing
  | withBounds {s : Schema} (minimum maximum : Number) :
      Built s → Built (s.withBounds minimum maximum)
  | nullable {s : Schema} : Built s → Built s.nullable
  | toDocument {s : Schema} : Built s → Built s.toDocument

/-- A schema has at most one of `type`, `anyOf` and `not`. -/
structure OneForm (s : Schema) : Prop where
  anyOf_of_types : s.types.isSome = true → s.anyOf = none
  not_of_types : s.types.isSome = true → s.not = none
  not_of_anyOf : s.anyOf.isSome = true → s.not = none

theorem oneForm_of_types (anyOf : s.anyOf = none) (not : s.not = none) : s.OneForm :=
  ⟨fun _ => anyOf, fun _ => not, fun _ => not⟩

theorem oneForm_of_anyOf (types : s.types = none) (not : s.not = none) : s.OneForm := by
  refine ⟨fun typed => ?_, fun _ => not, fun _ => not⟩
  rw [types] at typed
  cases typed

theorem OneForm.nullable (h : s.OneForm) : s.nullable.OneForm := by
  obtain ⟨types, typed, eq⟩ | ⟨-, -, eq⟩ | ⟨schemas, -, -, -, eq⟩ | ⟨schemas, types, anyOf, eq⟩ :=
    nullable_cases s
  · have typed : s.types.isSome = true := by rw [typed]; rfl
    rw [eq]
    exact oneForm_of_types (h.anyOf_of_types typed) (h.not_of_types typed)
  · rw [eq]
    exact oneForm_of_anyOf rfl rfl
  · rwa [eq]
  · rw [eq]
    exact oneForm_of_anyOf types (h.not_of_anyOf (by rw [anyOf]; rfl))

theorem Built.oneForm (h : s.Built) : s.OneForm := by
  induction h with
  | anything | ofType | string | array | emptyArray | object => exact oneForm_of_types rfl rfl
  | alternatives => exact oneForm_of_anyOf rfl rfl
  | nothing => exact ⟨fun _ => rfl, (nomatch ·), (nomatch ·)⟩
  | withBounds _ _ _ ih | toDocument _ ih => exact ⟨ih.1, ih.2, ih.3⟩
  | nullable _ ih => exact ih.nullable

/-- The alternatives of a schema that is put together are put together. -/
theorem Built.alternative (h : s.Built) (anyOf : s.anyOf = some schemas) {b : Schema}
    (hb : b ∈ schemas) : b.Built := by
  induction h generalizing schemas with
  | anything | ofType | string | array | emptyArray | object | nothing => cases anyOf
  | alternatives each =>
    cases anyOf
    exact each b hb
  | withBounds _ _ _ ih | toDocument _ ih => exact ih anyOf hb
  | @nullable s built ih =>
    obtain ⟨types, -, eq⟩ | ⟨-, -, eq⟩ | ⟨_, -, -, -, eq⟩ | ⟨before, -, was, eq⟩ := nullable_cases s
    · rw [eq] at anyOf
      exact ih anyOf hb
    · rw [eq] at anyOf
      cases anyOf
      rcases List.mem_pair.1 hb with rfl | rfl
      · exact built
      · exact .ofType _
    · rw [eq] at anyOf
      exact ih anyOf hb
    · rw [eq] at anyOf
      cases anyOf
      rcases List.mem_append.1 hb with old | new
      · exact ih was old
      · rw [List.mem_singleton.1 new]
        exact .ofType _

/-! ## What is accepted -/

/-- Of the keywords, only `type`, `anyOf` and `not` say anything about null. -/
theorem accepts_null (s : Schema) : s.accepts formats .null =
    (typesAccept s.types .null && anyOfAccepts formats s.anyOf .null &&
      notAccepts formats s.not .null) := by
  simp [accepts_eq, formatAccepts, minimumAccepts, maximumAccepts, itemsAccept, maxItemsAccepts,
    propertiesAccept, requiredAccepts]

theorem types_of_admitsNull (h : s.admitsNull = true) :
    ∃ types, s.types = some types ∧ types.admitsNull = true := by
  unfold admitsNull at h
  split at h
  · next types eq => exact ⟨types, eq, h⟩
  · cases h

/-- A schema of one form whose types admit null accepts it. -/
theorem OneForm.accepts_null (h : s.OneForm) (admits : s.admitsNull = true) :
    s.accepts formats .null = true := by
  obtain ⟨types, eq, null⟩ := types_of_admitsNull admits
  have typed : s.types.isSome = true := by rw [eq]; rfl
  have accepted : typesAccept (some types.withNull) .null = true := typesAccept_withNull_null
  rw [TypeSet.withNull_eq_self null] at accepted
  rw [Schema.accepts_null, h.anyOf_of_types typed, h.not_of_types typed, eq, accepted]
  rfl

/-- A schema without types accepts null if one of its alternatives does. -/
theorem OneForm.accepts_null_of_anyOf (h : s.OneForm) (types : s.types = none)
    (anyOf : s.anyOf = some schemas) {b : Schema} (hb : b ∈ schemas)
    (accepted : b.accepts formats .null = true) : s.accepts formats .null = true := by
  have inside : someAccepts formats .null schemas = true := someAccepts_iff.2 ⟨b, hb, accepted⟩
  rw [Schema.accepts_null, types, anyOf, h.not_of_anyOf (by rw [anyOf]; rfl), anyOfAccepts, inside]
  rfl

theorem someAccepts_append_null (h : v ≠ .null) :
    someAccepts formats v (schemas ++ [ofType .null]) = someAccepts formats v schemas := by
  rw [Bool.eq_iff_iff, someAccepts_iff, someAccepts_iff]
  constructor
  · rintro ⟨b, hb, accepted⟩
    rcases List.mem_append.1 hb with old | new
    · exact ⟨b, old, accepted⟩
    · rw [List.mem_singleton.1 new, accepts_ofType, TypeName.admits_null_iff] at accepted
      exact absurd accepted h
  · rintro ⟨b, hb, accepted⟩
    exact ⟨b, List.mem_append_left _ hb, accepted⟩

/-- Once it is nullable, a schema that is put together accepts null and what it accepted before. -/
theorem Built.accepts_nullable_iff (h : s.Built) :
    s.nullable.accepts formats v = true ↔ v = .null ∨ s.accepts formats v = true := by
  obtain ⟨types, typed, -⟩ | ⟨-, -, eq⟩ | ⟨schemas, types, anyOf, admitted, eq⟩ |
    ⟨schemas, types, anyOf, eq⟩ := nullable_cases s
  · have typed : s.types.isSome = true := by rw [typed]; rfl
    exact accepts_nullable_iff_of_types typed (h.oneForm.anyOf_of_types typed)
      (h.oneForm.not_of_types typed)
  · rw [eq, accepts_alternatives]
    simp only [someAccepts, Bool.or_false, Bool.or_eq_true, accepts_ofType, TypeName.admits_null_iff]
    exact or_comm
  · -- the alternative that admits null accepts it, since it is of one form itself
    obtain ⟨b, hb, admits⟩ := List.any_eq_true.1 admitted
    have inner : b.accepts formats .null = true :=
      (h.alternative anyOf hb).oneForm.accepts_null admits
    have accepted := h.oneForm.accepts_null_of_anyOf types anyOf hb inner
    rw [eq]
    exact ⟨.inr, fun either => either.elim (fun null => null ▸ accepted) id⟩
  · have one := h.nullable.oneForm
    rw [eq] at one ⊢
    by_cases null : v = .null
    · subst null
      have inner : (Schema.ofType .null).accepts formats .null = true := by rw [accepts_ofType]; rfl
      have accepted := one.accepts_null_of_anyOf types rfl
        (List.mem_append_right schemas (List.mem_singleton.2 rfl)) inner
      exact ⟨fun _ => .inl rfl, fun _ => accepted⟩
    · rw [or_iff_right null, accepts_eq, accepts_eq]
      simp only [anyOf, anyOfAccepts, someAccepts_append_null null]

/-- Letting null in adds null to what a schema accepts and nothing else, and doing so twice is doing so
once. -/
theorem nullable_adds_null (s : Schema) (formats : String → String → Bool) (v : Json) :
    (s.Built → (s.nullable.accepts formats v = true ↔
      v = .null ∨ s.accepts formats v = true)) ∧ s.nullable.nullable = s.nullable :=
  ⟨fun h => h.accepts_nullable_iff, nullable_nullable s⟩

/-- A document with alternatives, null being one of them inside another one. -/
theorem nullable_adds_null_nested :
    (alternatives [alternatives [ofType .null], string (some "email")]).toDocument.Built ∧
    (alternatives [alternatives [ofType .null], string (some "email")]).toDocument.nullable.accepts
      (fun _ _ => false) .null = true ∧
    (alternatives [alternatives [ofType .null], string (some "email")]).toDocument.nullable.accepts
      (fun _ _ => false) (.string "a") = false := by
  have built :
      (alternatives [alternatives [ofType .null], string (some "email")]).toDocument.Built := by
    refine .toDocument (.alternatives fun s hs => ?_)
    rcases List.mem_pair.1 hs with rfl | rfl
    · exact .alternatives fun s hs => List.mem_singleton.1 hs ▸ .ofType _
    · exact .string _
  refine ⟨built, ((nullable_adds_null _ _ _).1 built).2 (.inl rfl), ?_⟩
  rw [Bool.eq_false_iff, ne_eq, (nullable_adds_null _ _ _).1 built]
  rintro (null | accepted)
  · cases null
  · cases accepted

end Schema

end JsonShape
