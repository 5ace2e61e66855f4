import Mathlib.Data.String.Basic
import JsonShape.Proofs.Entries.Lookup
import JsonShape.Schema.Render

/-!
# What schemas accept

`Schema.accepts`: validation of a value by the keywords of JSON Schema 2020-12, given what the names of
formats stand for. A keyword says nothing about values of other types than its own; a number is an
integer if the value it denotes is whole, and numbers are compared with bounds exactly, by position.

The lemmas say what each way to make a schema accepts: first of the values of its own type, then of
all values. A node that names types, or has alternatives and nothing else, accepts what it accepted
and null once it is nullable (`accepts_nullable_iff_of_types`,
`accepts_nullable_iff_of_alternatives`).
-/

set_option autoImplicit false

namespace JsonShape

/-- Whether a value is of a type. -/
def TypeName.admits : TypeName → Json → Bool
  | string, .string _ => true
  | number, .number _ => true
  | integer, .number n => n.position % (Double.unitsPerOne : Int) == 0
  | boolean, .bool _ => true
  | object, .object _ => true
  | array, .array _ => true
  | null, .null => true
  | _, _ => false

namespace TypeName

variable {v : Json}

theorem admits_null_iff : null.admits v = true ↔ v = .null := by
  cases v <;> simp [admits]

theorem admits_boolean_iff : boolean.admits v = true ↔ ∃ b, v = .bool b := by
  cases v <;> simp [admits]

theorem admits_number_iff : number.admits v = true ↔ ∃ n, v = .number n := by
  cases v <;> simp [admits]

/-- The integers are the numbers of a whole value, however they are spelled. -/
theorem admits_integer_iff : integer.admits v = true ↔
    ∃ n, v = .number n ∧ ∃ k : Int, n.position = k * Double.unitsPerOne := by
  cases v with
  | number n =>
    simp only [admits, beq_iff_eq, Json.number.injEq, exists_eq_left']
    constructor
    · intro h
      exact ⟨n.position / Double.unitsPerOne, (Int.ediv_mul_cancel (Int.dvd_of_emod_eq_zero h)).symm⟩
    · rintro ⟨k, hk⟩
      rw [hk, Int.mul_emod_left]
  | _ => simp [admits]

theorem admits_string_iff : string.admits v = true ↔ ∃ s, v = .string s := by
  cases v <;> simp [admits]

theorem admits_array_iff : array.admits v = true ↔ ∃ items, v = .array items := by
  cases v <;> simp [admits]

theorem admits_object_iff : object.admits v = true ↔ ∃ members, v = .object members := by
  cases v <;> simp [admits]

end TypeName

namespace Schema

/-! ## Keywords without schemas -/

/-- `type`: one of the types, if there are any. -/
def typesAccept (types : Option TypeSet) (v : Json) : Bool :=
  types.all fun ts => ts.toList.any (TypeName.admits · v)

/-- `format`: a string has the format. -/
def formatAccepts (formats : String → String → Bool) (format : Option String) : Json → Bool
  | .string s => format.all (formats · s)
  | _ => true

/-- `minimum`: a number is not below it. -/
def minimumAccepts (minimum : Option Number) : Json → Bool
  | .number n => minimum.all fun m => decide (m.position ≤ n.position)
  | _ => true

/-- `maximum`: a number is not above it. -/
def maximumAccepts (maximum : Option Number) : Json → Bool
  | .number n => maximum.all fun m => decide (n.position ≤ m.position)
  | _ => true

/-- `maxItems`: an array has no more items. -/
def maxItemsAccepts (maxItems : Option Nat) : Json → Bool
  | .array items => maxItems.all fun most => decide (items.length ≤ most)
  | _ => true

/-- `required`: an object has all these keys. -/
def requiredAccepts (required : Option (List String)) : Json → Bool
  | .object members => required.all fun keys => keys.all (Entries.has · members)
  | _ => true

/-! ## Schemas -/

mutual

/-- Whether a schema accepts a value. -/
def accepts (formats : String → String → Bool) : Schema → Json → Bool
  | ⟨_, types, format, minimum, maximum, items, maxItems, properties, required, anyOf, not⟩, v =>
    typesAccept types v && formatAccepts formats format v && minimumAccepts minimum v &&
      maximumAccepts maximum v && itemsAccept formats items v && maxItemsAccepts maxItems v &&
      propertiesAccept formats properties v && requiredAccepts required v &&
      anyOfAccepts formats anyOf v && notAccepts formats not v

/-- `items`: every item of an array is accepted. -/
def itemsAccept (formats : String → String → Bool) : Option Schema → Json → Bool
  | some s, .array items => items.all (accepts formats s)
  | _, _ => true

/-- `properties`: the value of every key that an object has is accepted. -/
def propertiesAccept (formats : String → String → Bool) :
    Option (List (String × Schema)) → Json → Bool
  | some properties, .object members => membersAccept formats members properties
  | _, _ => true

/-- `anyOf`: some alternative accepts the value. -/
def anyOfAccepts (formats : String → String → Bool) : Option (List Schema) → Json → Bool
  | some schemas, v => someAccepts formats v schemas
  | none, _ => true

/-- `not`: the schema does not accept the value. -/
def notAccepts (formats : String → String → Bool) : Option Schema → Json → Bool
  | some s, v => !accepts formats s v
  | none, _ => true

/-- Members are accepted as far as they have the keys of properties. -/
def membersAccept (formats : String → String → Bool) (members : List (String × Json)) :
    List (String × Schema) → Bool
  | [] => true
  | (key, s) :: rest =>
    (Entries.get? key members).all (accepts formats s) && membersAccept formats members rest

/-- Some schema of a list accepts a value. -/
def someAccepts (formats : String → String → Bool) (v : Json) : List Schema → Bool
  | [] => false
  | s :: rest => accepts formats s v || someAccepts formats v rest

end

variable {formats : String → String → Bool} {v : Json}

theorem membersAccept_iff {members : List (String × Json)} {properties : List (String × Schema)} :
    membersAccept formats members properties = true ↔
      ∀ p ∈ properties, ∀ w ∈ Entries.get? p.1 members, p.2.accepts formats w = true := by
  induction properties with
  | nil => simp [membersAccept]
  | cons p properties ih =>
    obtain ⟨key, s⟩ := p
    rw [membersAccept, Bool.and_eq_true, ih, List.forall_mem_cons]
    cases Entries.get? key members <;> simp

theorem someAccepts_iff {schemas : List Schema} :
    someAccepts formats v schemas = true ↔ ∃ s ∈ schemas, s.accepts formats v = true := by
  induction schemas with
  | nil => simp [someAccepts]
  | cons s schemas ih => simp [someAccepts, ih]

/-- A schema accepts what all of its keywords accept. -/
theorem accepts_eq (s : Schema) : s.accepts formats v =
    (typesAccept s.types v && formatAccepts formats s.format v && minimumAccepts s.minimum v &&
      maximumAccepts s.maximum v && itemsAccept formats s.items v &&
      maxItemsAccepts s.maxItems v && propertiesAccept formats s.properties v &&
      requiredAccepts s.required v && anyOfAccepts formats s.anyOf v &&
      notAccepts formats s.not v) := by
  cases s
  rfl

/-! ## Absent keywords -/

@[simp] theorem typesAccept_none : typesAccept none v = true := rfl

@[simp] theorem formatAccepts_none : formatAccepts formats none v = true := by cases v <;> rfl

@[simp] theorem minimumAccepts_none : minimumAccepts none v = true := by cases v <;> rfl

@[simp] theorem maximumAccepts_none : maximumAccepts none v = true := by cases v <;> rfl

@[simp] theorem itemsAccept_none : itemsAccept formats none v = true := by cases v <;> rfl

@[simp] theorem maxItemsAccepts_none : maxItemsAccepts none v = true := by cases v <;> rfl

@[simp] theorem propertiesAccept_none : propertiesAccept formats none v = true := by cases v <;> rfl

@[simp] theorem requiredAccepts_none : requiredAccepts none v = true := by cases v <;> rfl

@[simp] theorem anyOfAccepts_none : anyOfAccepts formats none v = true := rfl

@[simp] theorem notAccepts_none : notAccepts formats none v = true := rfl

/-! ## Nodes -/

theorem typesAccept_one (t : TypeName) : typesAccept (some (.one t)) v = t.admits v := by
  simp [typesAccept, TypeSet.toList]

theorem accepts_ofType {t : TypeName} :
    (ofType t).accepts formats v = t.admits v := by
  simp [accepts_eq, ofType, anything, typesAccept_one]

theorem accepts_string {format : Option String} {s : String} :
    (string format).accepts formats (.string s) = format.all (formats · s) := by
  simp [accepts_eq, string, ofType, anything, typesAccept_one, TypeName.admits, formatAccepts]

theorem accepts_array {s : Schema} {items : List Json} :
    (array s).accepts formats (.array items) = items.all (s.accepts formats) := by
  simp [accepts_eq, array, ofType, anything, typesAccept_one, TypeName.admits, itemsAccept]

theorem accepts_emptyArray {items : List Json} :
    emptyArray.accepts formats (.array items) = items.isEmpty := by
  cases items <;>
    simp [accepts_eq, emptyArray, ofType, anything, typesAccept_one, TypeName.admits,
      maxItemsAccepts]

theorem accepts_object {properties : Entries Schema} {required : List String}
    {members : List (String × Json)} :
    (object properties required).accepts formats (.object members) =
      (membersAccept formats members properties && required.all (Entries.has · members)) := by
  cases properties <;> cases required <;>
    simp [accepts_eq, object, ofType, anything, typesAccept_one, TypeName.admits,
      propertiesAccept, requiredAccepts, membersAccept]

theorem accepts_alternatives {schemas : List Schema} :
    (alternatives schemas).accepts formats v = someAccepts formats v schemas := by
  simp [accepts_eq, alternatives, anything, anyOfAccepts]

/-- A type with bounds accepts the numbers of the type between them. -/
theorem accepts_withBounds {t : TypeName} {lo hi n : Number} :
    ((ofType t).withBounds lo hi).accepts formats (.number n) =
      (t.admits (.number n) && decide (lo.position ≤ n.position) &&
        decide (n.position ≤ hi.position)) := by
  simp [accepts_eq, withBounds, ofType, anything, typesAccept_one, minimumAccepts, maximumAccepts]

/-- What a node of one type accepts is of that type. -/
theorem admits_of_accepts {s : Schema} {t : TypeName} (ht : s.types = some (.one t))
    (h : s.accepts formats v = true) : t.admits v = true := by
  simp only [accepts_eq, ht, typesAccept_one, Bool.and_eq_true] at h
  tauto

theorem accepts_string_iff {format : Option String} :
    (string format).accepts formats v = true ↔
      ∃ s, v = .string s ∧ ∀ name ∈ format, formats name s = true := by
  constructor
  · intro h
    obtain ⟨s, rfl⟩ := TypeName.admits_string_iff.1 (admits_of_accepts rfl h)
    rw [accepts_string, Option.all_eq_true] at h
    exact ⟨s, rfl, h⟩
  · rintro ⟨s, rfl, h⟩
    rw [accepts_string, Option.all_eq_true]
    exact h

theorem accepts_array_iff {s : Schema} :
    (array s).accepts formats v = true ↔
      ∃ items, v = .array items ∧ ∀ w ∈ items, s.accepts formats w = true := by
  constructor
  · intro h
    obtain ⟨items, rfl⟩ := TypeName.admits_array_iff.1 (admits_of_accepts rfl h)
    rw [accepts_array, List.all_eq_true] at h
    exact ⟨items, rfl, h⟩
  · rintro ⟨items, rfl, h⟩
    rw [accepts_array, List.all_eq_true]
    exact h

theorem accepts_emptyArray_iff : emptyArray.accepts formats v = true ↔ v = .array [] := by
  constructor
  · intro h
    obtain ⟨items, rfl⟩ := TypeName.admits_array_iff.1 (admits_of_accepts rfl h)
    rw [accepts_emptyArray, List.isEmpty_iff] at h
    rw [h]
  · rintro rfl
    rw [accepts_emptyArray, List.isEmpty_nil]

theorem accepts_object_iff {properties : Entries Schema} {required : List String} :
    (object properties required).accepts formats v = true ↔
      ∃ members, v = .object members ∧ (∀ key ∈ required, Entries.has key members = true) ∧
        ∀ p ∈ properties, ∀ w ∈ Entries.get? p.1 members, p.2.accepts formats w = true := by
  have of_object (members : List (String × Json)) :
      (object properties required).accepts formats (.object members) = true ↔
        (∀ key ∈ required, Entries.has key members = true) ∧
          ∀ p ∈ properties, ∀ w ∈ Entries.get? p.1 members, p.2.accepts formats w = true := by
    rw [accepts_object, Bool.and_eq_true, membersAccept_iff, List.all_eq_true, and_comm]
  constructor
  · intro h
    obtain ⟨members, rfl⟩ := TypeName.admits_object_iff.1 (admits_of_accepts rfl h)
    exact ⟨members, rfl, (of_object members).1 h⟩
  · rintro ⟨members, rfl, h⟩
    exact (of_object members).2 h

/-- A numeric type accepts the numbers that it admits, between the bounds if there are any. -/
theorem accepts_withBounds?_iff {t : TypeName} (ht : t = .integer ∨ t = .number)
    {bounds : Option (Number × Number)} :
    ((ofType t).withBounds? bounds).accepts formats v = true ↔
      ∃ n, v = .number n ∧ t.admits (.number n) = true ∧
        ∀ b ∈ bounds, b.1.position ≤ n.position ∧ n.position ≤ b.2.position := by
  have types : ((ofType t).withBounds? bounds).types = some (.one t) := by cases bounds <;> rfl
  have of_number (n : Number) :
      ((ofType t).withBounds? bounds).accepts formats (.number n) = true ↔
        t.admits (.number n) = true ∧
          ∀ b ∈ bounds, b.1.position ≤ n.position ∧ n.position ≤ b.2.position := by
    cases bounds with
    | none => simp [withBounds?, accepts_ofType]
    | some bounds => simp [withBounds?, accepts_withBounds, and_assoc]
  constructor
  · intro h
    have number : TypeName.number.admits v = true := by
      have := admits_of_accepts types h
      rcases ht with rfl | rfl
      · obtain ⟨n, rfl, -⟩ := TypeName.admits_integer_iff.1 this
        rfl
      · exact this
    obtain ⟨n, rfl⟩ := TypeName.admits_number_iff.1 number
    exact ⟨n, rfl, (of_number n).1 h⟩
  · rintro ⟨n, rfl, h⟩
    exact (of_number n).2 h

/-- The schema of no value. -/
theorem accepts_nothing : nothing.accepts formats v = false := by
  simp [accepts_eq, nothing, anything, notAccepts]

/-- The draft says nothing about values. -/
theorem accepts_toDocument {s : Schema} : s.toDocument.accepts formats v = s.accepts formats v := by
  obtain ⟨⟩ := s
  rfl

/-! ## Null as well -/

theorem typesAccept_withNull {types : TypeSet} (h : v ≠ .null) :
    typesAccept (some types.withNull) v = typesAccept (some types) v := by
  have hn : TypeName.null.admits v = false := by cases v <;> simp_all [TypeName.admits]
  unfold TypeSet.withNull
  split
  · rfl
  · simp [typesAccept, TypeSet.toList, hn]

theorem typesAccept_withNull_null {types : TypeSet} :
    typesAccept (some types.withNull) .null = true := by
  unfold TypeSet.withNull
  split
  · next h =>
    simp only [TypeSet.admitsNull, List.contains_eq_mem, decide_eq_true_eq] at h
    simp only [typesAccept, Option.all_some, List.any_eq_true]
    exact ⟨.null, h, rfl⟩
  · simp [typesAccept, TypeSet.toList, TypeName.admits]

/-- A typed node that has become nullable accepts null and what it accepted, nothing else. -/
theorem accepts_nullable_iff_of_types {s : Schema} (h : s.types.isSome = true)
    (ha : s.anyOf = none) (hn : s.not = none) :
    s.nullable.accepts formats v = true ↔ v = .null ∨ s.accepts formats v = true := by
  obtain ⟨draft, types, format, minimum, maximum, items, maxItems, properties, required, anyOf,
    not⟩ := s
  obtain ⟨types, rfl⟩ := Option.isSome_iff_exists.1 h
  simp only at ha hn
  subst ha hn
  simp only [nullable, accepts_eq]
  by_cases hnull : v = .null
  · subst hnull
    simp [typesAccept_withNull_null, formatAccepts, minimumAccepts, maximumAccepts, itemsAccept,
      maxItemsAccepts, propertiesAccept, requiredAccepts]
  · rw [typesAccept_withNull hnull, or_iff_right hnull]

/-- Alternatives of which none admits null get null as one more. -/
theorem nullable_alternatives {schemas : List Schema}
    (bare : ∀ b ∈ schemas, b.admitsNull = false) :
    (alternatives schemas).nullable = alternatives (schemas ++ [ofType .null]) := by
  have none : schemas.any admitsNull = false := by
    simpa only [List.any_eq_false, Bool.not_eq_true] using bare
  simp [nullable, alternatives, anything, none]

/-- Alternatives that have become nullable accept null and what they accepted, nothing else, if none
of them names null as a type. -/
theorem accepts_nullable_iff_of_alternatives {schemas : List Schema}
    (h : ∀ s ∈ schemas, s.admitsNull = false) :
    (alternatives schemas).nullable.accepts formats v = true ↔
      v = .null ∨ (alternatives schemas).accepts formats v = true := by
  simp only [nullable_alternatives h, accepts_alternatives, someAccepts_iff, List.mem_append,
    List.mem_singleton]
  constructor
  · rintro ⟨s, hs | rfl, ha⟩
    · exact .inr ⟨s, hs, ha⟩
    · rw [accepts_ofType, TypeName.admits_null_iff] at ha
      exact .inl ha
  · rintro (rfl | ⟨s, hs, ha⟩)
    · exact ⟨_, .inr rfl, by rw [accepts_ofType]; rfl⟩
    · exact ⟨s, .inl hs, ha⟩

end Schema

end JsonShape
