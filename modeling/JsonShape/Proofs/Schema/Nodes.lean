import Mathlib.Data.String.Basic
import JsonShape.Proofs.Schema.Acceptance

/-!
# The nodes of a schema

`Schema.Node place n s`: `n` is a node of the schema `s`, held by the keyword `place`, or its root.
`Schema.StandsFor t s u n` goes down a shape and a schema side by side: the node `n` is where `u`
is.

`Schema.Regular` are the rules for one node. The schema that is written for a shape keeps them if
values have been seen and null is no part of the shape (`Shape.regular_toSchema`), and a node that
keeps them still does once it is nullable: `Regular.nullable_of_typed` if it names one type, and
`RegularAlternatives.append_null` if it has alternatives.
-/

set_option autoImplicit false

namespace JsonShape

/-! ## Nodes -/

/-- The keyword that holds a node. -/
inductive Place where
  /-- No keyword: the root of a schema. -/
  | root
  | items
  | properties
  | anyOf
  | not
deriving DecidableEq, Repr

namespace Schema

/-- A schema is directly inside another one, held by a keyword of it. -/
inductive Inside : Place → Schema → Schema → Prop where
  | items {m n : Schema} : n.items = some m → Inside .items m n
  | properties {m n : Schema} {key : String} {properties : Entries Schema} :
      n.properties = some properties → (key, m) ∈ properties → Inside .properties m n
  | anyOf {m n : Schema} {schemas : List Schema} :
      n.anyOf = some schemas → m ∈ schemas → Inside .anyOf m n
  | not {m n : Schema} : n.not = some m → Inside .not m n

/-- A schema is a node of another one: the root, or directly inside a node. -/
inductive Node : Place → Schema → Schema → Prop where
  | root (s : Schema) : Node .root s s
  | inside {place place' : Place} {m n s : Schema} :
      Node place n s → Inside place' m n → Node place' m s

/-- A node of a schema stands for a part of a shape: the root for the whole, and from there down in
both at once. A nullable shape and what is inside it have one node. -/
inductive StandsFor (t : Shape) (s : Schema) : Shape → Schema → Prop where
  | root : StandsFor t s t s
  | items {u : Shape} {m n : Schema} :
      StandsFor t s (.array u) n → n.items = some m → StandsFor t s u m
  | property {f : Fields Shape} {u : Shape} {m n : Schema} {key : String}
      {properties : Entries Schema} : StandsFor t s (.object f) n → f.get? key = some u →
      n.properties = some properties → (key, m) ∈ properties → StandsFor t s u m
  | inner {u : Shape} {n : Schema} : StandsFor t s (.nullable u) n → StandsFor t s u n
  | alternative {ts : List Shape} {schemas : List Schema} {i : Nat} {u : Shape} {m n : Schema} :
      StandsFor t s (.anyOf ts) n → n.anyOf = some schemas → ts[i]? = some u →
      schemas[i]? = some m → StandsFor t s u m

end Schema

/-! ## Rules -/

/-- The slot of the values of a type; integers and other numbers have the same one, null none. -/
def TypeName.slot? : TypeName → Option Slot
  | boolean => some .boolean
  | integer | number => some .number
  | string => some .string
  | array => some .array
  | object => some .object
  | null => none

namespace Schema

/-- The types that a node names. -/
def typeNames (n : Schema) : List TypeName := n.types.elim [] TypeSet.toList

/-- The keys of a node's properties. -/
def propertyKeys (n : Schema) : List String := Entries.keys (n.properties.getD [])

/-- The rules for alternatives: they are two or more, none of them has alternatives itself, null is
the last one if it is among them, and no two are of the same type. -/
structure RegularAlternatives (schemas : List Schema) : Prop where
  many : 2 ≤ schemas.length
  flat : ∀ b ∈ schemas, b.anyOf = none
  null_last : ∃ others, (∀ b ∈ others, b.admitsNull = false) ∧
    (schemas = others ∨ schemas = others ++ [ofType .null])
  distinct : schemas.Pairwise fun b c =>
    ∀ ty ∈ b.typeNames, ∀ ty' ∈ c.typeNames, ty.slot? ≠ ty'.slot?

/-- The rules for a node. -/
structure Regular (n : Schema) : Prop where
  /-- It has exactly one of `type`, `anyOf` and `not`. -/
  one_form : [n.types.isSome, n.anyOf.isSome, n.not.isSome].count true = 1
  alternatives : ∀ schemas, n.anyOf = some schemas → RegularAlternatives schemas
  /-- A list of types is one other type and null. -/
  types : ∀ tys, n.types = some (.several tys) → ∃ ty, ty ≠ .null ∧ tys = [ty, .null]
  required : ∀ keys, n.required = some keys →
    keys ≠ [] ∧ keys.Pairwise (· < ·) ∧ ∀ key ∈ keys, key ∈ n.propertyKeys
  items : n.items = none ∨ n.maxItems = none
  bounds : n.minimum.isSome = n.maximum.isSome
  numeric : n.minimum.isSome = true → ∃ ty, (ty = .integer ∨ ty = .number) ∧
    (n.types = some (.one ty) ∨ n.types = some (.several [ty, .null]))

/-! ## One node -/

/-- The node without the draft that a document names. -/
def undated (n : Schema) : Schema := { n with draft := none }

theorem undated_eq_self {n : Schema} (h : n.draft = none) : n.undated = n := by
  obtain ⟨⟩ := n
  cases h
  rfl

/-- A node that keeps the rules but for a draft keeps them. -/
theorem regular_of_undated {n : Schema} (h : n.undated.Regular) : n.Regular :=
  ⟨h.one_form, h.alternatives, h.types, h.required, h.items, h.bounds, h.numeric⟩

theorem regular_ofType (ty : TypeName) : (ofType ty).Regular where
  one_form := rfl
  alternatives _ h := nomatch h
  types _ h := nomatch h
  required _ h := nomatch h
  items := .inl rfl
  bounds := rfl
  numeric h := nomatch h

/-- A node of one type keeps the rules when it becomes nullable. -/
theorem Regular.nullable_of_typed {n : Schema} (h : n.Regular) (typed : n.Typed) :
    n.nullable.Regular := by
  obtain ⟨ty, other, types⟩ := typed.types
  have admits : (TypeSet.one ty).admitsNull = false := by
    have := typed.admitsNull
    rwa [admitsNull, types] at this
  have eq : n.nullable = { n with types := some (.several [ty, .null]) } := by
    simp [nullable, types, TypeSet.withNull, admits, TypeSet.toList]
  rw [eq]
  refine ⟨?_, h.alternatives, ?_, h.required, h.items, h.bounds, fun some => ?_⟩
  · simp [typed.anyOf, typed.not]
  · intro tys htys
    cases htys
    exact ⟨ty, other, rfl⟩
  · obtain ⟨ty', number, one | several⟩ := h.numeric some
    · cases types.symm.trans one
      exact ⟨ty, number, .inr rfl⟩
    · cases types.symm.trans several

theorem slot?_eq_none_iff {ty : TypeName} : ty.slot? = none ↔ ty = .null := by
  cases ty <;> simp [TypeName.slot?]

theorem ne_null_of_mem_typeNames {n : Schema} (h : n.admitsNull = false) {ty : TypeName}
    (hty : ty ∈ n.typeNames) : ty ≠ .null := by
  rintro rfl
  unfold typeNames at hty
  unfold admitsNull at h
  cases types : n.types with
  | none =>
    rw [types] at hty
    cases hty
  | some tys =>
    rw [types] at hty h
    have absent : TypeName.null ∉ tys.toList := by simpa [TypeSet.admitsNull] using h
    exact absent hty

/-- Alternatives that do not admit null keep the rules when null becomes the last one. -/
theorem RegularAlternatives.append_null {schemas : List Schema} (h : RegularAlternatives schemas)
    (bare : ∀ b ∈ schemas, b.admitsNull = false) :
    RegularAlternatives (schemas ++ [ofType .null]) where
  many := by
    have := h.many
    rw [List.length_append]
    omega
  flat := by
    intro b hb
    rcases List.mem_append.1 hb with hb | hb
    · exact h.flat b hb
    · rw [List.mem_singleton.1 hb]
      rfl
  null_last := ⟨schemas, bare, .inr rfl⟩
  distinct := by
    refine List.pairwise_append.2 ⟨h.distinct, List.pairwise_singleton _ _, ?_⟩
    intro b hb c hc ty hty ty' hty' same
    obtain rfl := List.mem_singleton.1 hc
    obtain rfl : ty' = .null := List.mem_singleton.1 hty'
    exact ne_null_of_mem_typeNames (bare b hb) hty (slot?_eq_none_iff.1 same)

theorem regular_alternatives {schemas : List Schema} (h : RegularAlternatives schemas) :
    (alternatives schemas).Regular where
  one_form := rfl
  alternatives _ eq := by
    cases eq
    exact h
  types _ eq := nomatch eq
  required _ eq := nomatch eq
  items := .inl rfl
  bounds := rfl
  numeric some := nomatch some

/-- Bounds are two more keywords. -/
theorem withBounds?_eq (ty : TypeName) (bounds : Option (Number × Number)) :
    (ofType ty).withBounds? bounds = { ofType ty with
      minimum := bounds.map Prod.fst, maximum := bounds.map Prod.snd } := by
  cases bounds <;> rfl

theorem regular_withBounds? {ty : TypeName} (number : ty = .integer ∨ ty = .number)
    (bounds : Option (Number × Number)) : ((ofType ty).withBounds? bounds).Regular := by
  cases bounds with
  | none => exact regular_ofType ty
  | some bounds =>
    refine ⟨rfl, ?_, ?_, ?_, .inl rfl, rfl, fun _ => ⟨ty, number, .inl rfl⟩⟩ <;>
      exact fun _ eq => nomatch eq

/-- A node of one type and neither keys nor bounds. -/
theorem Typed.regular {n : Schema} (h : n.Typed) (required : n.required = none)
    (items : n.items = none ∨ n.maxItems = none) (minimum : n.minimum = none)
    (maximum : n.maximum = none) : n.Regular where
  one_form := by
    obtain ⟨ty, -, types⟩ := h.types
    simp [types, h.anyOf, h.not]
  alternatives _ eq := nomatch h.anyOf.symm.trans eq
  types _ eq := by
    obtain ⟨ty, -, types⟩ := h.types
    cases types.symm.trans eq
  required _ eq := nomatch required.symm.trans eq
  items := items
  bounds := by rw [minimum, maximum]
  numeric some := by
    rw [minimum] at some
    cases some

theorem propertyKeys_object (properties : Entries Schema) (required : List String) :
    (object properties required).propertyKeys = Entries.keys properties := by
  cases properties <;> rfl

theorem properties_object {properties written : Entries Schema} {required : List String}
    (h : (object properties required).properties = some written) : written = properties := by
  cases properties <;> cases h
  rfl

theorem regular_object {properties : Entries Schema} {required : List String}
    (ordered : required.Pairwise (· < ·))
    (known : ∀ key ∈ required, key ∈ Entries.keys properties) :
    (object properties required).Regular where
  one_form := rfl
  alternatives _ eq := nomatch eq
  types _ eq := nomatch eq
  required keys eq := by
    rw [propertyKeys_object]
    cases required with
    | nil => cases eq
    | cons key rest =>
      cases eq
      exact ⟨List.cons_ne_nil _ _, ordered, known⟩
  items := .inl rfl
  bounds := rfl
  numeric some := nomatch some

end Schema

/-! ## The node of one shape -/

namespace Shape

variable (options : RenderOptions)

/-- A shape of which values have been seen, and that null is no part of. -/
structure Plain (t : Shape) : Prop where
  known : t.isUnknown = false
  bare : t.isNullable = false

/-- A plain shape has a slot of its own or is a choice of shapes. -/
theorem Plain.slot_or_anyOf {t : Shape} (h : t.Plain) :
    t.slot?.isSome = true ∨ ∃ ts, t = .anyOf ts := by
  cases t with
  | unknown => cases h.known
  | nullable _ => cases h.bare
  | anyOf ts => exact .inr ⟨ts, rfl⟩
  | _ => exact .inl rfl

theorem plain_of_slot {t : Shape} (h : t.slot?.isSome = true) : t.Plain where
  known := by cases t <;> first | rfl | cases h
  bare := isNullable_of_slot h

theorem types_toSchema {t : Shape} {slot : Slot} (h : t.slot? = some slot) :
    ∃ ty, (t.toSchema options).types = some (.one ty) ∧ ty.slot? = some slot := by
  cases t with
  | boolean => exact ⟨.boolean, rfl, h⟩
  | int range => exact ⟨.integer, by rw [toSchema, Schema.withBounds?_eq]; rfl, h⟩
  | float range => exact ⟨.number, by rw [toSchema, Schema.withBounds?_eq]; rfl, h⟩
  | string format => exact ⟨.string, rfl, h⟩
  | array items =>
    rw [toSchema]
    split <;> exact ⟨.array, rfl, h⟩
  | object f => exact ⟨.object, rfl, h⟩
  | unknown | nullable _ | anyOf _ => cases h

/-- The schemas of shapes of different slots are alternatives that keep the rules. -/
theorem regularAlternatives_toSchema {ts : List Shape} (many : 2 ≤ ts.length)
    (slots : ∀ t ∈ ts, t.slot?.isSome = true) (nodup : (ts.map slot?).Nodup) :
    Schema.RegularAlternatives (ts.map (toSchema options)) := by
  have typed : ∀ b ∈ ts.map (toSchema options), b.Typed :=
    List.forall_mem_map.2 fun t ht => typed_toSchema options (slots t ht)
  refine ⟨by rwa [List.length_map], fun b hb => (typed b hb).anyOf,
    ⟨_, fun b hb => (typed b hb).admitsNull, .inl rfl⟩, ?_⟩
  rw [List.pairwise_map]
  rw [List.Nodup, List.pairwise_map] at nodup
  refine nodup.imp_of_mem fun {t u} ht hu differ ty hty ty' hty' same => differ ?_
  obtain ⟨slot, hs⟩ := Option.isSome_iff_exists.1 (slots t ht)
  obtain ⟨slot', hs'⟩ := Option.isSome_iff_exists.1 (slots u hu)
  obtain ⟨own, types, own_slot⟩ := types_toSchema options hs
  obtain ⟨own', types', own_slot'⟩ := types_toSchema options hs'
  simp only [Schema.typeNames, types, types', Option.elim_some, TypeSet.toList,
    List.mem_singleton] at hty hty'
  rw [hs, hs', ← own_slot, ← own_slot', ← hty, ← hty', same]

/-- The keys of the properties are those of both groups. -/
theorem mem_propertyKeys_toSchema {f : Fields Shape} {key : String} :
    key ∈ ((object f).toSchema options).propertyKeys ↔
      key ∈ Entries.keys f.required ∨ key ∈ Entries.keys f.optional := by
  rw [toSchema, Schema.propertyKeys_object, Entries.mem_keys_union, Entries.mem_keys_ofList,
    keys_toSchemas, keys_toSchemas]

/-- The schema of a well-formed shape of one slot, or of alternatives, keeps the rules. -/
theorem regular_toSchema {t : Shape} (ht : t.WellFormed) (plain : t.Plain) :
    (t.toSchema options).Regular := by
  cases t with
  | unknown => cases plain.known
  | nullable _ => cases plain.bare
  | boolean => exact (typed_toSchema options rfl).regular rfl (.inl rfl) rfl rfl
  | int range => exact Schema.regular_withBounds? (.inl rfl) _
  | float range => exact Schema.regular_withBounds? (.inr rfl) _
  | string format => exact (typed_toSchema options rfl).regular rfl (.inl rfl) rfl rfl
  | array items =>
    have typed := typed_toSchema options (t := array items) rfl
    cases hi : items.isUnknown <;> simp only [toSchema, hi] at typed ⊢
    · exact typed.regular rfl (.inr rfl) rfl rfl
    · exact typed.regular rfl (.inl rfl) rfl rfl
  | object f =>
    refine Schema.regular_object (wellFormed_object.1 ht).1.required fun key hk => ?_
    have known := (mem_propertyKeys_toSchema options).2 (.inl hk)
    rwa [toSchema, Schema.propertyKeys_object] at known
  | anyOf ts =>
    obtain ⟨many, nodup, each⟩ := wellFormed_anyOf.1 ht
    rw [toSchema_anyOf options many]
    exact Schema.regular_alternatives
      (regularAlternatives_toSchema options many (fun t ht => (each t ht).1) nodup)

end Shape

end JsonShape
