import Mathlib.Data.String.Basic
import JsonShape.Proofs.Schema.Fitting
import JsonShape.Proofs.Schema.Nodes

/-!
# The nodes of a schema and the parts of its shape

`toDocument_depicts`: the schema of a well-formed shape keeps the rules at every node, has the keys
of the shape at the nodes that stand for objects, and negates or names a draft nowhere but at its
root (`Schema.Depicts`).

A node is made of what it stands for (`StandsFor.madeOf`): it is the schema of that shape, or that
schema made nullable, which changes the types or the alternatives only (`MadeOf.keywords`). Going
down from the root, every node stands for a plain shape or is the alternative for null
(`Node.accounted`).
-/

set_option autoImplicit false

namespace JsonShape

/-! ## Going down -/

namespace Schema

/-- A node is the schema of a well-formed shape, or of that shape made nullable. -/
def MadeOf (options : RenderOptions) (u : Shape) (n : Schema) : Prop :=
  ∃ w : Shape, (w = u ∨ w = .nullable u) ∧ w.WellFormed ∧ n.undated = w.toSchema options

variable {options : RenderOptions} {t u : Shape} {s n : Schema}

theorem MadeOf.wellFormed (h : MadeOf options u n) : u.WellFormed := by
  obtain ⟨w, rfl | rfl, wf, -⟩ := h
  · exact wf
  · exact (Shape.wellFormed_nullable.1 wf).2

theorem MadeOf.schema (h : MadeOf options u n) (known : u.isUnknown = false) :
    n.undated = u.toSchema options ∨ n.undated = (u.toSchema options).nullable := by
  obtain ⟨w, rfl | rfl, -, eq⟩ := h
  · exact .inl eq
  · rw [Shape.toSchema, known] at eq
    exact .inr eq

/-- Where null is let in, the types or the alternatives change and nothing else. -/
theorem keywords_nullable {n : Schema} (h : n.types.isSome = true ∨ n.anyOf.isSome = true) :
    n.nullable.properties = n.properties ∧ n.nullable.required = n.required ∧
      n.nullable.items = n.items ∧ n.nullable.minimum = n.minimum ∧
      n.nullable.maximum = n.maximum ∧ n.nullable.not = n.not := by
  unfold nullable
  split
  · exact ⟨rfl, rfl, rfl, rfl, rfl, rfl⟩
  · split <;> exact ⟨rfl, rfl, rfl, rfl, rfl, rfl⟩
  · next types anyOf =>
    rw [types, anyOf] at h
    simp at h

/-- The schema of a plain shape names one type, or has alternatives without null. -/
theorem typed_or_alternatives (options : RenderOptions) (wf : u.WellFormed) (plain : u.Plain) :
    (u.toSchema options).Typed ∨ ∃ schemas, u.toSchema options = alternatives schemas ∧
      (∀ b ∈ schemas, b.admitsNull = false) ∧ RegularAlternatives schemas := by
  rcases plain.slot_or_anyOf with slot | ⟨ts, rfl⟩
  · exact .inl (Shape.typed_toSchema options slot)
  · obtain ⟨many, nodup, each⟩ := Shape.wellFormed_anyOf.1 wf
    have slots : ∀ t ∈ ts, t.slot?.isSome = true := fun t ht => (each t ht).1
    exact .inr ⟨_, Shape.toSchema_anyOf options many,
      List.forall_mem_map.2 fun t ht => (Shape.typed_toSchema options (slots t ht)).admitsNull,
      Shape.regularAlternatives_toSchema options many slots nodup⟩

theorem isSome_types_or_anyOf (options : RenderOptions) (wf : u.WellFormed) (plain : u.Plain) :
    (u.toSchema options).types.isSome = true ∨ (u.toSchema options).anyOf.isSome = true := by
  rcases typed_or_alternatives options wf plain with typed | ⟨schemas, eq, -⟩
  · obtain ⟨ty, -, types⟩ := typed.types
    exact .inl (by rw [types]; rfl)
  · exact .inr (by rw [eq]; rfl)

/-- The keywords of a node that null does not change. -/
theorem MadeOf.keywords (h : MadeOf options u n) (plain : u.Plain) :
    n.properties = (u.toSchema options).properties ∧ n.required = (u.toSchema options).required ∧
      n.items = (u.toSchema options).items ∧ n.minimum = (u.toSchema options).minimum ∧
      n.maximum = (u.toSchema options).maximum ∧ n.not = (u.toSchema options).not := by
  rcases h.schema plain.known with eq | eq
  · rw [← eq]
    exact ⟨rfl, rfl, rfl, rfl, rfl, rfl⟩
  · have same := keywords_nullable (isSome_types_or_anyOf options h.wellFormed plain)
    rw [← eq] at same
    exact same

theorem not_toSchema (wf : u.WellFormed) (plain : u.Plain) : (u.toSchema options).not = none := by
  rcases typed_or_alternatives options wf plain with typed | ⟨schemas, eq, -⟩
  · exact typed.not
  · rw [eq]
    rfl

/-- The alternatives of a node that stands for alternatives, and maybe null. -/
theorem MadeOf.alternatives {ts : List Shape} (h : MadeOf options (.anyOf ts) n)
    {schemas : List Schema} (eq : n.anyOf = some schemas) :
    schemas = ts.map (Shape.toSchema options) ∨
      schemas = ts.map (Shape.toSchema options) ++ [ofType .null] := by
  obtain ⟨many, -, each⟩ := Shape.wellFormed_anyOf.1 h.wellFormed
  have undated : n.undated.anyOf = some schemas := eq
  rcases h.schema rfl with made | made <;> rw [made, Shape.toSchema_anyOf options many] at undated
  · exact .inl (Option.some.inj undated).symm
  · rw [nullable_alternatives (List.forall_mem_map.2 fun t ht =>
      (Shape.typed_toSchema options (each t ht).1).admitsNull)] at undated
    exact .inr (Option.some.inj undated).symm

/-- A node made of a plain shape keeps the rules. -/
theorem MadeOf.regular (h : MadeOf options u n) (plain : u.Plain) : n.Regular := by
  refine regular_of_undated ?_
  have regular := Shape.regular_toSchema options h.wellFormed plain
  rcases h.schema plain.known with eq | eq <;> rw [eq]
  · exact regular
  · rcases typed_or_alternatives options h.wellFormed plain with
      typed | ⟨schemas, eq, bare, alternatives⟩
    · exact regular.nullable_of_typed typed
    · rw [eq, nullable_alternatives bare]
      exact regular_alternatives (alternatives.append_null bare)

theorem draft_nullable (h : n.draft = none) : n.nullable.draft = none := by
  unfold nullable
  split
  · exact h
  · split
    · exact h
    · exact h
  · rfl

/-- No node names a draft of its own. -/
theorem draft_toSchema (options : RenderOptions) (wf : u.WellFormed) :
    (u.toSchema options).draft = none := by
  induction u using Shape.induct with
  | unknown | boolean | string _ | object _ _ => rfl
  | int range | float range => rw [Shape.toSchema, withBounds?_eq]; rfl
  | array items =>
    rw [Shape.toSchema]
    split <;> rfl
  | nullable inner ih =>
    rw [Shape.toSchema]
    split
    · rfl
    · exact draft_nullable (ih (Shape.wellFormed_nullable.1 wf).2)
  | anyOf ts =>
    rw [Shape.toSchema_anyOf options (Shape.wellFormed_anyOf.1 wf).1]
    rfl

/-- A node made of a well-formed shape as it is. -/
theorem madeOf_toSchema (wf : u.WellFormed) : MadeOf options u (u.toSchema options) :=
  ⟨u, .inl rfl, wf, undated_eq_self (draft_toSchema options wf)⟩

/-- Only arrays have items. -/
theorem exists_of_items (wf : u.WellFormed) (plain : u.Plain) {m : Schema}
    (h : (u.toSchema options).items = some m) :
    ∃ w : Shape, u = .array w ∧ w.isUnknown = false ∧ m = w.toSchema options := by
  cases u with
  | unknown => cases plain.known
  | nullable _ => cases plain.bare
  | boolean | string _ | object _ => cases h
  | int range | float range =>
    rw [Shape.toSchema, withBounds?_eq] at h
    cases h
  | array w =>
    rw [Shape.toSchema] at h
    split at h
    · cases h
    · next seen => exact ⟨w, rfl, Bool.not_eq_true _ ▸ seen, (Option.some.inj h).symm⟩
  | anyOf ts =>
    rw [Shape.toSchema_anyOf options (Shape.wellFormed_anyOf.1 wf).1] at h
    cases h

/-- Only objects have properties and required keys. -/
theorem exists_of_keys (wf : u.WellFormed) (plain : u.Plain)
    (h : (u.toSchema options).properties.isSome = true ∨
      (u.toSchema options).required.isSome = true) : ∃ f, u = .object f := by
  cases u with
  | unknown => cases plain.known
  | nullable _ => cases plain.bare
  | boolean | string _ => rcases h with h | h <;> cases h
  | int range | float range =>
    rw [Shape.toSchema, withBounds?_eq] at h
    rcases h with h | h <;> cases h
  | array w =>
    rw [Shape.toSchema] at h
    split at h <;> rcases h with h | h <;> cases h
  | object f => exact ⟨f, rfl⟩
  | anyOf ts =>
    rw [Shape.toSchema_anyOf options (Shape.wellFormed_anyOf.1 wf).1] at h
    rcases h with h | h <;> cases h

/-- Only alternatives have alternatives. -/
theorem MadeOf.exists_of_anyOf (h : MadeOf options u n) (plain : u.Plain) {schemas : List Schema}
    (eq : n.anyOf = some schemas) : ∃ ts, u = .anyOf ts := by
  rcases plain.slot_or_anyOf with slot | choice
  · have undated : n.undated.anyOf = some schemas := eq
    have typed := Shape.typed_toSchema options slot
    obtain ⟨ty, -, types⟩ := typed.types
    rcases h.schema plain.known with made | made <;> rw [made] at undated
    · cases typed.anyOf.symm.trans undated
    · simp only [nullable, types] at undated
      cases typed.anyOf.symm.trans undated
  · exact choice

/-- Alternatives are null or the schema of an alternative shape at the same place. -/
theorem mem_alternatives {ts : List Shape} {schemas : List Schema}
    (h : schemas = ts.map (Shape.toSchema options) ∨
      schemas = ts.map (Shape.toSchema options) ++ [ofType .null])
    {m : Schema} (mem : m ∈ schemas) :
    m = ofType .null ∨
      ∃ (i : Nat) (v : Shape), ts[i]? = some v ∧ schemas[i]? = some m ∧ m = v.toSchema options := by
  have inside : m ∈ ts.map (Shape.toSchema options) → ∃ (i : Nat) (v : Shape), ts[i]? = some v ∧
      (ts.map (Shape.toSchema options))[i]? = some m ∧ m = v.toSchema options := by
    intro hm
    obtain ⟨v, hv, rfl⟩ := List.mem_map.1 hm
    obtain ⟨i, hi⟩ := List.getElem?_of_mem hv
    exact ⟨i, v, hi, by rw [List.getElem?_map, hi]; rfl, rfl⟩
  rcases h with rfl | rfl
  · exact .inr (inside mem)
  · rcases List.mem_append.1 mem with mem | mem
    · obtain ⟨i, v, hv, hm, eq⟩ := inside mem
      exact .inr ⟨i, v, hv, by
        rw [List.getElem?_append_left (List.getElem?_eq_some_iff.1 hm).1, hm], eq⟩
    · exact .inl (List.mem_singleton.1 mem)

/-- What a node stands for is what it has been made of: going down in both keeps it so. -/
theorem StandsFor.madeOf (wf : t.WellFormed) (root : s.undated = t.toSchema options)
    (h : StandsFor t s u n) : MadeOf options u n := by
  induction h with
  | root => exact ⟨t, .inl rfl, wf, root⟩
  | @items u m n _ eq ih =>
    rw [(ih.keywords ⟨rfl, rfl⟩).2.2.1] at eq
    obtain ⟨w, same, -, rfl⟩ := exists_of_items ih.wellFormed ⟨rfl, rfl⟩ eq
    cases same
    exact madeOf_toSchema (Shape.wellFormed_array.1 ih.wellFormed)
  | @property f u m n key properties _ known eq mem ih =>
    obtain ⟨proper, each⟩ := Shape.wellFormed_object.1 ih.wellFormed
    rw [(ih.keywords ⟨rfl, rfl⟩).1, Shape.toSchema] at eq
    rw [properties_object eq] at mem
    obtain ⟨v, known', rfl⟩ := (Shape.mem_properties_iff options proper).1 mem
    cases known.symm.trans known'
    exact madeOf_toSchema (each key u known).2
  | @inner u n _ ih =>
    obtain ⟨w, rfl | rfl, wf, eq⟩ := ih
    · exact ⟨_, .inr rfl, wf, eq⟩
    · cases (Shape.wellFormed_nullable.1 wf).1
  | @alternative ts schemas i u m n _ eq at_shape at_schema ih =>
    have inside : (ts.map (Shape.toSchema options))[i]? = some (u.toSchema options) := by
      rw [List.getElem?_map, at_shape]
      rfl
    have same : schemas[i]? = some (u.toSchema options) := by
      rcases ih.alternatives eq with rfl | rfl
      · exact inside
      · rw [List.getElem?_append_left (List.getElem?_eq_some_iff.1 inside).1, inside]
    cases at_schema.symm.trans same
    exact madeOf_toSchema
      ((Shape.wellFormed_anyOf.1 ih.wellFormed).2.2 u (List.mem_of_getElem? at_shape)).2

/-- A node that stands for a plain shape, or is the alternative for null. -/
def Accounted (t : Shape) (s n : Schema) : Prop :=
  n.undated = ofType .null ∨ ∃ u : Shape, u.Plain ∧ StandsFor t s u n

/-- A node that stands for a shape of which values have been seen stands for a plain one, unless
only null has been seen. -/
theorem StandsFor.accounted (wf : t.WellFormed) (root : s.undated = t.toSchema options)
    (h : StandsFor t s u n) (known : u.isUnknown = false) : Accounted t s n := by
  have made := h.madeOf wf root
  cases bare : u.isNullable with
  | false => exact .inr ⟨u, ⟨known, bare⟩, h⟩
  | true =>
    obtain ⟨inner, rfl⟩ : ∃ inner, u = .nullable inner := by
      cases u <;> first | exact ⟨_, rfl⟩ | cases bare
    obtain ⟨innerBare, -⟩ := Shape.wellFormed_nullable.1 made.wellFormed
    cases seen : inner.isUnknown with
    | false => exact .inr ⟨inner, ⟨seen, innerBare⟩, h.inner⟩
    | true =>
      obtain ⟨w, rfl | rfl, wf', eq⟩ := made
      · rw [Shape.toSchema, if_pos seen] at eq
        exact .inl eq
      · cases (Shape.wellFormed_nullable.1 wf').1

/-- What is directly inside a node that stands for a plain shape. -/
theorem Inside.accounted (wf : t.WellFormed) (root : s.undated = t.toSchema options)
    (plain : u.Plain) (h : StandsFor t s u n) {place : Place} {m : Schema}
    (inside : Inside place m n) :
    place ≠ .root ∧ place ≠ .not ∧ m.draft = none ∧ Accounted t s m := by
  have made := h.madeOf wf root
  obtain ⟨properties, -, items, -, -, not⟩ := made.keywords plain
  cases inside with
  | items eq =>
    obtain ⟨w, rfl, known, rfl⟩ := exists_of_items made.wellFormed plain (items ▸ eq)
    exact ⟨by decide, by decide, draft_toSchema options (Shape.wellFormed_array.1 made.wellFormed),
      (h.items eq).accounted wf root known⟩
  | @properties _ _ key _ eq mem =>
    obtain ⟨f, rfl⟩ := exists_of_keys made.wellFormed plain (.inl (by rw [← properties, eq]; rfl))
    obtain ⟨proper, each⟩ := Shape.wellFormed_object.1 made.wellFormed
    have written := properties ▸ eq
    rw [Shape.toSchema] at written
    obtain ⟨v, known, rfl⟩ :=
      (Shape.mem_properties_iff options proper).1 (properties_object written ▸ mem)
    exact ⟨by decide, by decide, draft_toSchema options (each key v known).2,
      (h.property known eq mem).accounted wf root (each key v known).1⟩
  | @anyOf _ _ schemas eq mem =>
    obtain ⟨ts, rfl⟩ := made.exists_of_anyOf plain eq
    obtain ⟨-, -, each⟩ := Shape.wellFormed_anyOf.1 made.wellFormed
    have all := made.alternatives eq
    rcases mem_alternatives all mem with rfl | ⟨i, v, at_shape, at_schema, rfl⟩
    · exact ⟨by decide, by decide, rfl, .inl rfl⟩
    · have alternative := each v (List.mem_of_getElem? at_shape)
      exact ⟨by decide, by decide, draft_toSchema options alternative.2,
        (h.alternative eq at_shape at_schema).accounted wf root
          (Shape.plain_of_slot alternative.1).known⟩
  | not eq =>
    rw [not, not_toSchema made.wellFormed plain] at eq
    cases eq

/-! ## All nodes -/

/-- Nothing is inside a node without the keywords that hold schemas. -/
theorem not_inside {place : Place} {m : Schema} (items : n.items = none)
    (properties : n.properties = none) (anyOf : n.anyOf = none) (not : n.not = none) :
    ¬ Inside place m n := by
  rintro (eq | ⟨eq, -⟩ | ⟨eq, -⟩ | eq)
  · cases items.symm.trans eq
  · cases properties.symm.trans eq
  · cases anyOf.symm.trans eq
  · cases not.symm.trans eq

/-- A shape of which nothing has been seen has two nodes, one of them negated. -/
theorem node_nothing (root : s.undated = nothing) {place : Place} (h : Node place n s) :
    place = .root ∧ n = s ∨ place = .not ∧ n = anything := by
  induction h with
  | root => exact .inl ⟨rfl, rfl⟩
  | inside _ inside ih =>
    rcases ih root with ⟨rfl, rfl⟩ | ⟨rfl, rfl⟩
    · cases inside with
      | items eq => cases (congrArg Schema.items root).symm.trans eq
      | properties eq _ => cases (congrArg Schema.properties root).symm.trans eq
      | anyOf eq _ => cases (congrArg Schema.anyOf root).symm.trans eq
      | not eq =>
        cases (congrArg Schema.not root).symm.trans eq
        exact .inr ⟨rfl, rfl⟩
    · exact absurd inside (not_inside rfl rfl rfl rfl)

/-- Every node but a negated one is the alternative for null or stands for a plain shape. -/
theorem Node.accounted (wf : t.WellFormed) (known : t.isUnknown = false)
    (root : s.undated = t.toSchema options) {place : Place} (h : Node place n s) :
    place ≠ .not ∧ (place ≠ .root → n.draft = none) ∧ Accounted t s n := by
  induction h with
  | root => exact ⟨nofun, fun h => absurd rfl h, StandsFor.root.accounted wf root known⟩
  | inside _ inside ih =>
    obtain ⟨-, -, null | ⟨u, plain, stands⟩⟩ := ih root
    · exact absurd inside (not_inside (congrArg Schema.items null)
        (congrArg Schema.properties null) (congrArg Schema.anyOf null) (congrArg Schema.not null))
    · obtain ⟨-, negated, draft, accounted⟩ := inside.accounted wf root plain stands
      exact ⟨negated, fun _ => draft, accounted⟩
end Schema

/-! ## Bounds -/

namespace Interval

variable {range : Interval} {options : RenderOptions} {lo hi : Number}

/-- Bounds that stand where the ends of a range are differ. -/
theorem Valid.lt_of_isBounding (h : range.Valid) (asked : range.isBounding options = true)
    (hlo : range.lo.position = some lo.position) (hhi : range.hi.position = some hi.position) :
    lo.position < hi.position := by
  have differ := (h.isBounding_iff.1 asked).differ
  have le := (Double.le_iff_of_position hlo hhi).1 h.lo_le_hi
  simp only [Double.eqv, hlo, hhi, decide_eq_false_iff_not] at differ
  omega

theorem Valid.lt_of_intBounds? (h : range.Valid) (whole : range.lo.isWhole = true ∧
    range.hi.isWhole = true) (bounds : range.intBounds? options = some (lo, hi)) :
    lo.position < hi.position := by
  unfold intBounds? at bounds
  split at bounds
  · next asked =>
    have safe := isSafe_of_isBounding asked
    rw [isSafe, Bool.and_eq_true] at safe
    obtain ⟨l, hl, hpl⟩ := Double.exists_ofInt?_wholePart whole.1 safe.1
    obtain ⟨m, hm, hpm⟩ := Double.exists_ofInt?_wholePart whole.2 safe.2
    rw [hl, hm] at bounds
    cases bounds
    exact h.lt_of_isBounding asked hpl hpm
  · cases bounds

theorem Valid.lt_of_floatBounds? (h : range.Valid)
    (bounds : range.floatBounds? options = some (lo, hi)) : lo.position < hi.position := by
  unfold floatBounds? at bounds
  split at bounds
  · next asked =>
    obtain ⟨l, hl, hpl⟩ := Double.exists_ofDouble? h.lo_finite
    obtain ⟨m, hm, hpm⟩ := Double.exists_ofDouble? h.hi_finite
    rw [hl, hm] at bounds
    cases bounds
    exact h.lt_of_isBounding asked hpl hpm
  · cases bounds

end Interval

/-! ## Documents -/

namespace Schema

variable {options : RenderOptions} {t u : Shape} {s n : Schema}

/-- The rules for all nodes of the schema of a shape. -/
structure Depicts (options : RenderOptions) (t : Shape) (s : Schema) : Prop where
  regular : ∀ place n, Node place n s → place ≠ .not → n.Regular
  /-- Only the root negates, and what it negates is the empty schema, which accepts everything. -/
  negation : ∀ place n m, Node place n s → n.not = some m →
    place = .root ∧ t = .unknown ∧ m = anything
  draft : ∀ place n, Node place n s →
    n.draft = if place = .root ∧ options.document = true then some draftUri else none
  /-- Keys are written in nodes that stand for objects only. -/
  objects : ∀ place n, Node place n s → n.properties.isSome = true ∨ n.required.isSome = true →
    ∃ f, StandsFor t s (.object f) n
  keys : ∀ f n, StandsFor t s (.object f) n →
    ∀ key, key ∈ n.propertyKeys ↔ key ∈ Entries.keys f.required ∨ key ∈ Entries.keys f.optional
  /-- Bounds differ, unless those of integers have been cut off. -/
  less : ∀ place n lo hi, Node place n s → n.minimum = some lo → n.maximum = some hi →
    (∀ range, StandsFor t s (.int range) n →
      range.lo.isWhole = true ∧ range.hi.isWhole = true) →
    lo.position < hi.position

/-- The bounds of a node differ if those of integers have not been cut off. -/
theorem MadeOf.less (h : MadeOf options u n) (plain : u.Plain) {lo hi : Number}
    (minimum : n.minimum = some lo) (maximum : n.maximum = some hi)
    (whole : ∀ range, u = .int range → range.lo.isWhole = true ∧ range.hi.isWhole = true) :
    lo.position < hi.position := by
  obtain ⟨-, -, -, hmin, hmax, -⟩ := h.keywords plain
  rw [hmin] at minimum
  rw [hmax] at maximum
  have both {ty : TypeName} {bounds : Option (Number × Number)}
      (h : ((ofType ty).withBounds? bounds).minimum = some lo)
      (h' : ((ofType ty).withBounds? bounds).maximum = some hi) : bounds = some (lo, hi) := by
    cases bounds <;> cases h
    cases h'
    rfl
  cases u with
  | unknown => cases plain.known
  | nullable _ => cases plain.bare
  | boolean | string _ | object _ => cases minimum
  | int range =>
    exact (Shape.wellFormed_int.1 h.wellFormed).lt_of_intBounds? (whole range rfl)
      (both minimum maximum)
  | float range =>
    exact (Shape.wellFormed_float.1 h.wellFormed).lt_of_floatBounds? (both minimum maximum)
  | array items =>
    rw [Shape.toSchema] at minimum
    split at minimum <;> cases minimum
  | anyOf ts =>
    rw [Shape.toSchema_anyOf options (Shape.wellFormed_anyOf.1 h.wellFormed).1] at minimum
    cases minimum

/-- A node that stands for an object has the keys of the object. -/
theorem StandsFor.mem_propertyKeys (wf : t.WellFormed) (root : s.undated = t.toSchema options)
    {f : Fields Shape} (h : StandsFor t s (.object f) n) {key : String} :
    key ∈ n.propertyKeys ↔ key ∈ Entries.keys f.required ∨ key ∈ Entries.keys f.optional := by
  rw [← Shape.mem_propertyKeys_toSchema options, propertyKeys, propertyKeys,
    ((h.madeOf wf root).keywords ⟨rfl, rfl⟩).1]

theorem regular_nothing : nothing.Regular := by
  refine ⟨rfl, ?_, ?_, ?_, .inl rfl, rfl, fun some => nomatch some⟩ <;> exact fun _ eq => nomatch eq

theorem depicts_unknown (root : s.undated = nothing)
    (draft : s.draft = if options.document = true then some draftUri else none) :
    s.Depicts options .unknown where
  regular place n node outside := by
    rcases node_nothing root node with ⟨-, rfl⟩ | ⟨negated, -⟩
    · exact regular_of_undated (root ▸ regular_nothing)
    · exact absurd negated outside
  negation place n m node negated := by
    rcases node_nothing root node with ⟨top, rfl⟩ | ⟨-, rfl⟩
    · cases (congrArg Schema.not root).symm.trans negated
      exact ⟨top, rfl, rfl⟩
    · cases negated
  draft place n node := by
    rcases node_nothing root node with ⟨rfl, rfl⟩ | ⟨rfl, rfl⟩
    · simp [draft]
    · rfl
  objects place n node keys := by
    rcases node_nothing root node with ⟨-, rfl⟩ | ⟨-, rfl⟩
    · rw [show n.properties = none from congrArg Schema.properties root,
        show n.required = none from congrArg Schema.required root] at keys
      rcases keys with h | h <;> cases h
    · rcases keys with h | h <;> cases h
  keys _ _ stands _ := stands.mem_propertyKeys Shape.wellFormed_unknown
    (show s.undated = Shape.unknown.toSchema options from root)
  less place n lo hi node minimum _ _ := by
    rcases node_nothing root node with ⟨-, rfl⟩ | ⟨-, rfl⟩
    · cases (congrArg Schema.minimum root).symm.trans minimum
    · cases minimum

/-- A schema made from a shape of which values have been seen keeps the rules at every node. -/
theorem depicts_of_known (wf : t.WellFormed) (known : t.isUnknown = false)
    (root : s.undated = t.toSchema options)
    (draft : s.draft = if options.document = true then some draftUri else none) :
    s.Depicts options t where
  regular place n node _ := by
    obtain ⟨-, -, null | ⟨u, plain, stands⟩⟩ := node.accounted wf known root
    · exact regular_of_undated (null ▸ regular_ofType .null)
    · exact (stands.madeOf wf root).regular plain
  negation place n m node negated := by
    obtain ⟨-, -, null | ⟨u, plain, stands⟩⟩ := node.accounted wf known root
    · cases (congrArg Schema.not null).symm.trans negated
    · have made := stands.madeOf wf root
      obtain ⟨-, -, -, -, -, not⟩ := made.keywords plain
      cases (not.trans (not_toSchema made.wellFormed plain)).symm.trans negated
  draft place n node := by
    obtain ⟨-, inside, -⟩ := node.accounted wf known root
    by_cases top : place = .root
    · subst top
      obtain rfl : n = s := by
        cases node with
        | root => rfl
        | inside node inside => cases inside
      simp [draft]
    · rw [inside top, if_neg fun h => top h.1]
  objects place n node keys := by
    obtain ⟨-, -, null | ⟨u, plain, stands⟩⟩ := node.accounted wf known root
    · rw [show n.properties = none from congrArg Schema.properties null,
        show n.required = none from congrArg Schema.required null] at keys
      rcases keys with h | h <;> cases h
    · have made := stands.madeOf wf root
      obtain ⟨properties, required, -⟩ := made.keywords plain
      rw [properties, required] at keys
      obtain ⟨f, rfl⟩ := exists_of_keys made.wellFormed plain keys
      exact ⟨f, stands⟩
  keys _ _ stands _ := stands.mem_propertyKeys wf root
  less place n lo hi node minimum maximum whole := by
    obtain ⟨-, -, null | ⟨u, plain, stands⟩⟩ := node.accounted wf known root
    · cases (congrArg Schema.minimum null).symm.trans minimum
    · exact (stands.madeOf wf root).less plain minimum maximum fun range eq =>
        whole range (eq ▸ stands)

end Schema

namespace Shape

/-- Every document of a well-formed shape keeps the rules at all of its nodes. -/
theorem toDocument_depicts {t : Shape} (ordered : t.Canonical) (checked : t.check = none)
    (options : RenderOptions) : (t.toDocument options).Depicts options t := by
  have wf : t.WellFormed := ⟨ordered, sound_of_check checked⟩
  have undated := Schema.undated_eq_self (Schema.draft_toSchema options wf)
  have root : (t.toDocument options).undated = t.toSchema options := by
    unfold toDocument
    split
    · rw [← undated]
      rfl
    · exact undated
  have draft : (t.toDocument options).draft =
      if options.document = true then some Schema.draftUri else none := by
    unfold toDocument
    split
    · rfl
    · exact Schema.draft_toSchema options wf
  cases known : t.isUnknown with
  | true =>
    obtain rfl : t = unknown := by cases t <;> first | rfl | cases known
    exact Schema.depicts_unknown root draft
  | false => exact Schema.depicts_of_known wf known root draft

/-- The alternatives of the root are an object with a key of each group, integers and null. -/
theorem toDocument_depicts_nullable :
    (nullable (anyOf [object ⟨[("a", boolean)], [("b", array unknown)]⟩,
      int ⟨.ofInt 0, .ofInt 10⟩])).Canonical ∧
    (nullable (anyOf [object ⟨[("a", boolean)], [("b", array unknown)]⟩,
      int ⟨.ofInt 0, .ofInt 10⟩])).check = none ∧
    ((nullable (anyOf [object ⟨[("a", boolean)], [("b", array unknown)]⟩,
      int ⟨.ofInt 0, .ofInt 10⟩])).toDocument ⟨true, true⟩).Depicts ⟨true, true⟩
      (nullable (anyOf [object ⟨[("a", boolean)], [("b", array unknown)]⟩,
        int ⟨.ofInt 0, .ofInt 10⟩])) := by
  have canonical : (nullable (anyOf [object ⟨[("a", boolean)], [("b", array unknown)]⟩,
      int ⟨.ofInt 0, .ofInt 10⟩])).Canonical := by
    simp [Shape.Canonical, CanonicalAlternatives, CanonicalProperties, Entries.Ordered, Entries.keys]
  have valid : Interval.Valid ⟨.ofInt 0, .ofInt 10⟩ :=
    ⟨by decide +kernel, by decide +kernel, by decide +kernel⟩
  have checked : (nullable (anyOf [object ⟨[("a", boolean)], [("b", array unknown)]⟩,
      int ⟨.ofInt 0, .ofInt 10⟩])).check = none :=
    check_of_sound (by simp [Sound, SoundAlternatives, SoundProperties, Entries.keys, isNullable,
      isUnknown, slot?, valid])
  exact ⟨canonical, checked, toDocument_depicts canonical checked ⟨true, true⟩⟩

end Shape

end JsonShape
