import Mathlib.Data.String.Basic
import JsonShape.Proofs.Json.Canonical
import JsonShape.Proofs.Shape.Groups

/-!
# Tables of objects

Columns of values, one for each key, make objects, which are the rows of a table (`Json.rows`).
Columns are of any length: to fill the table the first value comes again (`Json.column_eq_append`).
The last row has only some of the keys, which are then those that all objects have.

What the rows have under a key is its column (`Json.valuesOf_rows`), and a table that has the keys of
fields makes these fields (`Fields.ofObjects_rows`).
-/

set_option autoImplicit false

namespace JsonShape

namespace Json

/-! ## Columns -/

/-- The value at a place of a column: its first value comes again after the others. -/
def pick (values : List Json) (place : Nat) : Json := values.getD place (values.headD null)

/-- The first `n` places of a column. -/
def column (n : Nat) (values : List Json) : List Json := (List.range n).map (pick values)

theorem column_eq_append {n : Nat} {values : List Json} (h : values.length ≤ n) :
    column n values = values ++ List.replicate (n - values.length) (values.headD null) := by
  apply List.ext_getElem
  · simp only [column, List.length_map, List.length_range, List.length_append,
      List.length_replicate]
    omega
  · intro place _ _
    rw [List.getElem_append]
    by_cases inside : place < values.length
    · simp [column, pick, inside]
    · simp [column, pick, inside]

theorem pick_mem {values : List Json} (h : values ≠ []) (place : Nat) :
    pick values place ∈ values := by
  obtain ⟨first, rest, rfl⟩ := List.exists_cons_of_ne_nil h
  rw [pick, List.getD_eq_getElem?_getD]
  cases hp : (first :: rest)[place]? with
  | none => exact List.mem_cons_self
  | some v => exact List.mem_of_getElem? hp

/-! ## Tables -/

/-- An object with some of the keys of a table. -/
def row (columns : String → List Json) (keys : List String) (place : Nat) : Entries Json :=
  keys.map fun key => (key, pick (columns key) place)

/-- Objects with all keys, one at least, and a last one with those required only. -/
def rows (columns : String → List Json) (keys required : List String) (n : Nat) :
    List (Entries Json) :=
  (List.range (n + 1)).map (row columns keys) ++ [row columns required (n + 1)]

section
variable {columns : String → List Json} {keys required : List String} {n : Nat}

theorem get?_row (place : Nat) (key : String) : Entries.get? key (row columns keys place) =
    if key ∈ keys then some (pick (columns key) place) else none :=
  Entries.get?_map_key (fun key => pick (columns key) place) key

theorem has_row (place : Nat) (key : String) :
    Entries.has key (row columns keys place) = true ↔ key ∈ keys := by
  rw [Entries.has_iff_mem_keys, row, Entries.keys_map_key]

theorem mem_rows {members : Entries Json} (h : members ∈ rows columns keys required n) :
    (∃ place, members = row columns keys place) ∨ members = row columns required (n + 1) := by
  rcases List.mem_append.1 h with h | h
  · obtain ⟨place, -, rfl⟩ := List.mem_map.1 h
    exact .inl ⟨place, rfl⟩
  · exact .inr (List.mem_singleton.1 h)

theorem canonical_row (ordered : keys.Pairwise (· < ·))
    (values : ∀ key ∈ keys, columns key ≠ [] ∧ ∀ v ∈ columns key, v.Canonical) (place : Nat) :
    (object (row columns keys place)).Canonical := by
  refine ⟨?_, canonicalMembers_iff.2 fun m hm => ?_⟩
  · rwa [Entries.Ordered, row, Entries.keys_map_key]
  · obtain ⟨key, hk, rfl⟩ := List.mem_map.1 hm
    obtain ⟨filled, canonical⟩ := values key hk
    exact canonical _ (pick_mem filled place)

/-- What the rows have under a key is its column, one place longer if the key is required. -/
theorem valuesOf_rows {key : String} (h : key ∈ keys) :
    valuesOf key (rows columns keys required n) =
      column (if key ∈ required then n + 2 else n + 1) (columns key) := by
  have first : valuesOf key ((List.range (n + 1)).map (row columns keys)) =
      column (n + 1) (columns key) := by
    rw [valuesOf, List.filterMap_map, column, ← List.filterMap_eq_map]
    refine List.filterMap_congr fun place _ => ?_
    rw [Function.comp_apply, get?_row, if_pos h, Function.comp_apply]
  have last : valuesOf key [row columns required (n + 1)] =
      if key ∈ required then [pick (columns key) (n + 1)] else [] := by
    rw [valuesOf, List.filterMap_cons, get?_row]
    split <;> simp_all
  rw [rows, valuesOf, List.filterMap_append, ← valuesOf, ← valuesOf, first, last]
  split
  · rw [column, column, ← List.map_singleton, ← List.map_append, ← List.range_succ]
  · rw [List.append_nil]

variable (sub : ∀ key ∈ required, key ∈ keys)
include sub

/-- Some row has a key if the table has it. -/
theorem any_has_rows (key : String) :
    (rows columns keys required n).any (Entries.has key) = decide (key ∈ keys) := by
  rw [Bool.eq_iff_iff, List.any_eq_true, decide_eq_true_iff]
  constructor
  · rintro ⟨members, hm, has⟩
    rcases mem_rows hm with ⟨place, rfl⟩ | rfl
    · exact (has_row _ key).1 has
    · exact sub key ((has_row _ key).1 has)
  · intro h
    refine ⟨row columns keys 0, List.mem_append_left _ ?_, (has_row 0 key).2 h⟩
    exact List.mem_map_of_mem (List.mem_range.2 (Nat.succ_pos n))

/-- Every row has a key if it is required. -/
theorem all_has_rows (key : String) :
    (rows columns keys required n).all (Entries.has key) = decide (key ∈ required) := by
  rw [Bool.eq_iff_iff, List.all_eq_true, decide_eq_true_iff]
  constructor
  · intro all
    exact (has_row _ key).1 (all _ (List.mem_append_right _ List.mem_cons_self))
  · intro h members hm
    rcases mem_rows hm with ⟨place, rfl⟩ | rfl
    · exact (has_row _ key).2 (sub key h)
    · exact (has_row _ key).2 h

end

end Json

namespace Fields

variable {α : Type}

/-- All keys, in order. -/
def keys (f : Fields α) : List String :=
  Entries.keys (Entries.union f.required f.optional)

theorem mem_keys_iff {f : Fields α} {key : String} :
    key ∈ f.keys ↔ (f.get? key).isSome = true := by
  rw [keys, Entries.mem_keys_union, isSome_get?_iff]

theorem mem_keys_of_mem_required {f : Fields α} {key : String}
    (h : key ∈ Entries.keys f.required) : key ∈ f.keys := Entries.mem_keys_union.2 (.inl h)

/-- Objects in a table of the keys of fields have these keys, and all have those required. -/
theorem ofObjects_rows {f : Fields α} (hf : f.Proper) {columns : String → List Json} {n : Nat}
    {known : String → α} (h : ∀ key a, f.get? key = some a → known key = a) :
    ofObjects (Json.rows columns f.keys (Entries.keys f.required) n) known = f := by
  have sub : ∀ key ∈ Entries.keys f.required, key ∈ f.keys := fun _ => mem_keys_of_mem_required
  refine ext_of_proper ofObjects_proper hf (fun key => ?_) fun key => ?_
  · rw [get?_ofObjects, Json.any_has_rows sub]
    simp only [decide_eq_true_iff, mem_keys_iff]
    cases hk : f.get? key with
    | none => rfl
    | some a => rw [h key a hk, Option.isSome_some, if_pos rfl]
  · rw [isRequired_ofObjects, Json.any_has_rows sub, Json.all_has_rows sub, isRequired,
      Bool.eq_iff_iff, Bool.and_eq_true, decide_eq_true_iff, decide_eq_true_iff,
      Entries.has_iff_mem_keys]
    exact and_iff_right_of_imp (sub key)

end Fields

end JsonShape
