import Mathlib.Data.String.Basic
import JsonShape.Proofs.Json.Canonical
import JsonShape.Proofs.Schema.Nodes
import JsonShape.Schema.Codec

/-!
# Schemas read back

A schema is read back from the value it is written as, with the members in order
(`ofJson?_canonical_toJson`), if its properties are in order at every node and no number of items has
more than 64 bits (`Schema.WellFormed`). So no two such schemas are written alike
(`ofJson?_and_toJson_injective`).

A schema is written as a list of members, one for each keyword that is present (`Schema.members`).
Whether or not they have been put in order, what is found under a name among the members is the
keyword of that name (`get?_keyword`, `schema_reading_toJson`), and each keyword comes back from what
it was written as (`optional?_map`, `readingOf?_map`).
-/

set_option autoImplicit false

namespace JsonShape

/-! ## Keywords -/

namespace Entries

variable {α : Type}

theorem get?_append (key : String) (es fs : Entries α) :
    get? key (es ++ fs) = (get? key es).or (get? key fs) := by
  induction es with
  | nil => rfl
  | cons e es ih =>
    rw [List.cons_append, get?, get?, ih]
    split <;> rfl

end Entries

theorem Schema.json_reading (v : Json) : (reading v).json = v := by
  cases v <;> rfl

section

variable {α : Type} {write : α → Json} {o : Option α}

theorem get?_keyword (key name : String) (write : α → Json) (o : Option α) :
    Entries.get? key (keyword name write o) = if name = key then o.map write else none := by
  cases o with
  | none => simp [keyword, Entries.get?]
  | some x => simp [keyword, Entries.get?]

theorem keys_keyword_sublist (name : String) (write : α → Json) (o : Option α) :
    (Entries.keys (keyword name write o)).Sublist [name] := by
  cases o with
  | none => exact List.nil_sublist _
  | some x => exact List.Sublist.refl _

/-- A keyword comes back if its value does; null stands for no value. -/
theorem optional?_map {read : Json → Option α} (null : read .null = none)
    (h : ∀ x, o = some x → read (write x) = some x) : optional? read (o.map write) = some o := by
  cases o with
  | none => rfl
  | some x =>
    have same := h x rfl
    have value : write x ≠ .null := fun eq => by
      rw [eq, null] at same
      cases same
    rw [Option.map_some, optional?, same]
    · rfl
    · exact value

/-- A keyword that holds schemas comes back if the reading of its value does. -/
theorem Schema.readingOf?_map {read : Schema.Reading → Option α}
    (null : read (Schema.reading .null) = none)
    (h : ∀ x, o = some x → read (Schema.reading (write x)) = some x) :
    Schema.readingOf? read (o.map fun x => Schema.reading (write x)) = some o := by
  cases o with
  | none => rfl
  | some x =>
    have same := h x rfl
    rw [Option.map_some, Schema.readingOf?, Schema.json_reading]
    split
    · next eq =>
      rw [eq, null] at same
      cases same
    · rw [same]
      rfl

end

/-- A list comes back item by item. -/
theorem mapM_map_eq_some {α β : Type} {read : β → Option α} {write : α → β} {xs : List α}
    (h : ∀ x ∈ xs, read (write x) = some x) : (xs.map write).mapM read = some xs := by
  induction xs with
  | nil => rfl
  | cons x xs ih =>
    rw [List.forall_mem_cons] at h
    rw [List.map_cons, List.mapM_cons, h.1, ih h.2]
    rfl

theorem Json.strings?_map (ss : List String) : (array (ss.map string)).strings? = some ss :=
  mapM_map_eq_some fun _ _ => rfl

theorem Json.canonical_array_of_strings (ss : List String) :
    (array (ss.map string)).canonical = array (ss.map string) := by
  rw [canonical, canonicalItems_eq_map, List.map_map]
  rfl

theorem Json.canonical_ofNat_eq (n : Nat) : (ofNat n).canonical = ofNat n := by
  unfold ofNat
  split <;> rfl

theorem TypeName.ofName?_name (t : TypeName) : ofName? t.name = some t := by
  cases t <;> rfl

theorem TypeSet.canonical_toJson (types : TypeSet) : types.toJson.canonical = types.toJson := by
  cases types with
  | one t => rfl
  | several ts =>
    have strings : ts.map (fun t => Json.string t.name) = (ts.map TypeName.name).map .string := by
      rw [List.map_map]
      rfl
    rw [toJson, strings, Json.canonical_array_of_strings]

theorem TypeSet.ofJson?_toJson (types : TypeSet) : ofJson? types.toJson = some types := by
  cases types with
  | one t => simp [toJson, ofJson?, Json.tag?, TypeName.ofName?_name]
  | several ts =>
    have names : (ts.map fun t => Json.string t.name).mapM
        (fun (i : Json) => i.tag?.bind TypeName.ofName?) = some ts :=
      mapM_map_eq_some fun t _ => TypeName.ofName?_name t
    exact congrArg (Option.map several) names

namespace Schema

variable {s : Schema}

/-! ## What is written -/

/-- A schema that can be written: at every node the properties are in order, none twice, and the number
of items has at most 64 bits. -/
inductive WellFormed : Schema → Prop where
  | node {s : Schema}
      (ordered : ∀ properties, s.properties = some properties → Entries.Ordered properties)
      (fits : ∀ most, s.maxItems = some most → most < 0x10000000000000000)
      (inside : ∀ place m, Inside place m s → WellFormed m) : WellFormed s

theorem toJsonMembers_eq_mapValues (properties : List (String × Schema)) :
    toJsonMembers properties = Entries.mapValues toJson properties := by
  induction properties with
  | nil => rfl
  | cons p properties ih =>
    rw [toJsonMembers, ih]
    rfl

theorem toJsonItems_eq_map (schemas : List Schema) : toJsonItems schemas = schemas.map toJson := by
  induction schemas with
  | nil => rfl
  | cons s schemas ih => rw [toJsonItems, ih, List.map_cons]

/-- The members that a schema is written as. -/
def members (s : Schema) : List (String × Json) :=
  keyword "$schema" .string s.draft ++ (keyword "type" TypeSet.toJson s.types ++
    (keyword "format" .string s.format ++ (keyword "minimum" .number s.minimum ++
    (keyword "maximum" .number s.maximum ++ (keyword "items" toJson s.items ++
    (keyword "maxItems" .ofNat s.maxItems ++
    (keyword "properties" (fun ps => .object (toJsonMembers ps)) s.properties ++
    (keyword "required" (fun keys => .array (keys.map .string)) s.required ++
    (keyword "anyOf" (fun schemas => .array (toJsonItems schemas)) s.anyOf ++
      keyword "not" toJson s.not)))))))))

theorem toJson_eq (s : Schema) : s.toJson = .object s.members := by
  have node (name : String) (o : Option Schema) : nodeMember name o = keyword name toJson o := by
    cases o <;> rfl
  have properties (o : Option (List (String × Schema))) : propertiesMember o =
      keyword "properties" (fun ps => .object (toJsonMembers ps)) o := by
    cases o <;> rfl
  have anyOf (o : Option (List Schema)) : anyOfMember o =
      keyword "anyOf" (fun schemas => .array (toJsonItems schemas)) o := by
    cases o <;> rfl
  obtain ⟨⟩ := s
  simp only [toJson, members, node, properties, anyOf, List.append_assoc]

theorem keys_members_sublist (s : Schema) : (Entries.keys s.members).Sublist keywordNames := by
  unfold members
  simp only [Entries.keys, List.map_append]
  repeat' first
    | exact keys_keyword_sublist _ _ _
    | refine List.Sublist.append (keys_keyword_sublist _ _ _) ?_

theorem nodup_keys_members (s : Schema) : (Entries.keys s.members).Nodup :=
  (keys_members_sublist s).nodup (by decide)

/-! ## What is read -/

theorem readings_eq_map (items : List Json) : readings items = items.map reading := by
  induction items with
  | nil => rfl
  | cons v items ih => rw [readings, ih, List.map_cons]

theorem memberReadings_eq_mapValues (members : List (String × Json)) :
    memberReadings members = Entries.mapValues reading members := by
  induction members with
  | nil => rfl
  | cons m members ih =>
    rw [memberReadings, ih]
    rfl

/-- A schema in order is read from the keywords of its members, each put in order. -/
theorem schema_reading_toJson (s : Schema) : (reading s.toJson.canonical).schema =
    ofKeywords? fun name =>
      (Entries.get? name s.members).map fun v => reading v.canonical := by
  have found (name : String) : Entries.get? name
      (memberReadings (Entries.ofList (Json.canonicalMembers s.members))) =
      (Entries.get? name s.members).map fun v => reading v.canonical := by
    have nodup : (Entries.keys (Json.canonicalMembers s.members)).Nodup := by
      rw [Json.keys_canonicalMembers]
      exact nodup_keys_members s
    rw [memberReadings_eq_mapValues, Entries.get?_mapValues, Entries.get?_ofList nodup,
      Json.canonicalMembers_eq_mapValues, Entries.get?_mapValues, Option.map_map]
    rfl
  rw [toJson_eq, Json.canonical, reading]
  simp only [found]

theorem schemas_reading {schemas : List Schema}
    (h : ∀ b ∈ schemas, (reading b.toJson.canonical).schema = some b) :
    (reading (Json.array (toJsonItems schemas)).canonical).schemas = some schemas := by
  rw [Json.canonical, reading, readings_eq_map, Json.canonicalItems_eq_map, toJsonItems_eq_map,
    List.map_map, List.map_map]
  exact mapM_map_eq_some h

theorem properties_reading {properties : Entries Schema} (ordered : Entries.Ordered properties)
    (h : ∀ p ∈ properties, (reading p.2.toJson.canonical).schema = some p.2) :
    (reading (Json.object (toJsonMembers properties)).canonical).properties = some properties := by
  have sorted : Entries.ofList (Json.canonicalMembers (toJsonMembers properties)) =
      Json.canonicalMembers (toJsonMembers properties) := by
    refine Entries.ofList_eq_self (Entries.ordered_of_keys_eq ?_ ordered)
    rw [Json.keys_canonicalMembers, toJsonMembers_eq_mapValues, Entries.keys_mapValues]
  rw [Json.canonical, sorted, reading, memberReadings_eq_mapValues,
    Json.canonicalMembers_eq_mapValues, toJsonMembers_eq_mapValues]
  simp only [Entries.mapValues, List.map_map]
  refine mapM_map_eq_some fun p hp => ?_
  show (reading p.2.toJson.canonical).schema.map (p.1, ·) = some p
  rw [h p hp]
  rfl

/-- A schema comes back if its maximal number of items is not too large, its properties are in order,
and the schemas inside it come back. -/
theorem reading_of_inside (ordered : ∀ ps, s.properties = some ps → Entries.Ordered ps)
    (fits : ∀ most, s.maxItems = some most → most < 0x10000000000000000)
    (inside : ∀ place m, Inside place m s → (reading m.toJson.canonical).schema = some m) :
    (reading s.toJson.canonical).schema = some s := by
  rw [schema_reading_toJson, ofKeywords?]
  simp only [members, Entries.get?_append, get?_keyword, String.reduceEq, if_true, if_false,
    Option.none_or, Option.or_none, Option.map_map, Function.comp_def, json_reading]
  have texts (o : Option String) :
      optional? Json.string? (o.map fun x => (Json.string x).canonical) = some o :=
    optional?_map rfl fun _ _ => rfl
  have numbers (o : Option Number) :
      optional? Json.number? (o.map fun x => (Json.number x).canonical) = some o :=
    optional?_map rfl fun _ _ => rfl
  have types : optional? TypeSet.ofJson? (s.types.map fun x => x.toJson.canonical) =
      some s.types :=
    optional?_map rfl fun types _ => by rw [TypeSet.canonical_toJson, TypeSet.ofJson?_toJson]
  have items : readingOf? Reading.schema (s.items.map fun x => reading x.toJson.canonical) =
      some s.items :=
    readingOf?_map rfl fun m hm => inside .items m (.items hm)
  have maxItems : optional? Json.nat? (s.maxItems.map fun x => (Json.ofNat x).canonical) =
      some s.maxItems :=
    optional?_map rfl fun most h => by
      rw [Json.canonical_ofNat_eq, Json.nat?_ofNat, if_pos (fits most h)]
  have properties : readingOf? Reading.properties
      (s.properties.map fun x => reading (Json.object (toJsonMembers x)).canonical) =
      some s.properties :=
    readingOf?_map rfl fun ps h =>
      properties_reading (ordered ps h) fun p hp => inside .properties p.2 (.properties h hp)
  have required : optional? Json.strings?
      (s.required.map fun x => (Json.array (x.map Json.string)).canonical) = some s.required :=
    optional?_map rfl fun keys _ => by rw [Json.canonical_array_of_strings, Json.strings?_map]
  have anyOf : readingOf? Reading.schemas
      (s.anyOf.map fun x => reading (Json.array (toJsonItems x)).canonical) = some s.anyOf :=
    readingOf?_map rfl fun schemas h =>
      schemas_reading fun b hb => inside .anyOf b (.anyOf h hb)
  have not : readingOf? Reading.schema (s.not.map fun x => reading x.toJson.canonical) =
      some s.not :=
    readingOf?_map rfl fun m hm => inside .not m (.not hm)
  simp only [texts, numbers, types, items, maxItems, properties, required, anyOf, not, bind,
    Option.bind_some]
  cases s
  rfl

/-- A schema is read back from the value it is written as, with its members in order. -/
theorem ofJson?_canonical_toJson (h : s.WellFormed) : ofJson? s.toJson.canonical = some s := by
  induction h with
  | node ordered fits _ ih => exact reading_of_inside ordered fits ih

/-- A schema comes back from the value it is written as, and no other one is written as that value. -/
theorem ofJson?_and_toJson_injective (h : s.WellFormed) :
    ofJson? s.toJson.canonical = some s ∧
      ∀ t : Schema, t.WellFormed → t.toJson.canonical = s.toJson.canonical → t = s := by
  have back := ofJson?_canonical_toJson h
  refine ⟨back, fun t ht same => ?_⟩
  rw [← same, ofJson?_canonical_toJson ht] at back
  exact Option.some.inj back

theorem wellFormed_anything : anything.WellFormed := by
  refine .node nofun nofun fun place m inside => ?_
  cases inside <;> contradiction

/-- A schema with lists and maps that are present and empty, and with a property of an empty key. -/
theorem ofJson?_and_toJson_injective_empty :
    (Schema.mk none (some (.several [])) none none none (some anything) (some 0)
      (some [("", anything)]) (some []) (some []) (some anything)).WellFormed ∧
    ofJson? (Schema.mk none (some (.several [])) none none none (some anything) (some 0)
      (some [("", anything)]) (some []) (some []) (some anything)).toJson.canonical =
      some ⟨none, some (.several []), none, none, none, some anything, some 0,
        some [("", anything)], some [], some [], some anything⟩ := by
  have wellFormed : (Schema.mk none (some (.several [])) none none none (some anything) (some 0)
      (some [("", anything)]) (some []) (some []) (some anything)).WellFormed := by
    refine .node (fun ps h => ?_) (fun most h => ?_) fun place m inside => ?_
    · cases h
      simp [Entries.Ordered, Entries.keys]
    · cases h
      decide
    · cases inside with
      | items h | not h =>
        cases h
        exact wellFormed_anything
      | properties h member =>
        cases h
        cases List.mem_singleton.1 member
        exact wellFormed_anything
      | anyOf h member =>
        cases h
        cases member
  exact ⟨wellFormed, (ofJson?_and_toJson_injective wellFormed).1⟩

end Schema

end JsonShape
