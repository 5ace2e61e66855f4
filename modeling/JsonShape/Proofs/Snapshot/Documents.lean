import Mathlib.Data.String.Basic
import JsonShape.Proofs.Snapshot

/-!
# Snapshots in texts and in values

A snapshot can be read from a text (`Snapshot.ofText`) or from the value that the text denotes
(`Snapshot.ofJson`). If no object in the text repeats a key, both succeed with the same snapshot or
both fail, and snapshots are to blame (`ofText_and_ofJson`).

The two ways differ in what they look at: a text has its members in its own order and those that are
no fields of a snapshot are passed over before the others are read, while a value has all of them,
in order. Neither matters to what the fields are (`ofFields?_filter`, `ofJson?_canonical`), however
deep they are and whether objects or arrays hold them.
-/

set_option autoImplicit false

namespace JsonShape

/-- No object of a text has two members of one key. -/
def Json.KeysDistinct (text : String) : Prop :=
  ∀ v, (Written.ofText? text).bind (Written.json? Written.maxNesting) = some v → v.Distinct

/-! ## Fields among other members -/

namespace Entries

variable {α : Type} {key : String} {p : String → Bool}

/-- A key is looked up alike among some members only, if it is the key of one of these. -/
theorem atMostOne?_filter (h : p key = true) (es : Entries α) :
    atMostOne? key (es.filter fun e => p e.1) = atMostOne? key es := by
  have same : (es.filter fun e => p e.1).filter (fun e => e.1 == key) =
      es.filter fun e => e.1 == key := by
    rw [List.filter_filter]
    refine List.filter_congr fun e _ => ?_
    by_cases eq : e.1 = key
    · simp [eq, h]
    · simp [eq]
  rw [atMostOne?, atMostOne?, same]

theorem only?_filter (h : p key = true) (es : Entries α) :
    only? key (es.filter fun e => p e.1) = only? key es := by
  rw [only?, only?, atMostOne?_filter h]

end Entries

/-! ## Members of a document -/

namespace Written

variable {room : Nat} {ms : List (Option String × Written)} {members : List (String × Json)}

theorem all_isSome_of_jsonMembers? (h : jsonMembers? room ms = some members) :
    ms.all (fun m => m.1.isSome) = true := by
  induction ms generalizing members with
  | nil => rfl
  | cons m ms ih =>
    obtain ⟨key, w⟩ := m
    simp only [jsonMembers?, bind, Option.bind_eq_some_iff] at h
    obtain ⟨k, rfl, v, -, vs, rest, -⟩ := h
    rw [List.all_cons, ih rest]
    rfl

/-- Some members only of a document denote those members of what it denotes. -/
theorem jsonMembers?_filter (p : String → Bool) (h : jsonMembers? room ms = some members) :
    jsonMembers? room (ms.filter fun m => m.1.any p) =
      some (members.filter fun e => p e.1) := by
  induction ms generalizing members with
  | nil =>
    cases h
    rfl
  | cons m ms ih =>
    obtain ⟨key, w⟩ := m
    simp only [jsonMembers?, bind, Option.bind_eq_some_iff] at h
    obtain ⟨k, rfl, v, value, vs, rest, eq⟩ := h
    cases eq
    by_cases kept : p k = true
    · rw [List.filter_cons_of_pos (by simpa using kept),
        List.filter_cons_of_pos (by simpa using kept), jsonMembers?, value, ih rest]
      rfl
    · rw [List.filter_cons_of_neg (by simpa using kept),
        List.filter_cons_of_neg (by simpa using kept), ih rest]

end Written

/-! ## Snapshots -/

namespace Snapshot

/-- Whether a member is a field of a snapshot. -/
def isField (key : String) : Bool := fieldNames.any fun name => key == name

theorem ofFields?_filter (fields : Entries Json) :
    ofFields? (fields.filter fun e => isField e.1) = ofFields? fields := by
  have version : isField "version" = true := by decide
  have observations : isField "observations" = true := by decide
  have inferred : isField "inferred" = true := by decide
  simp only [ofFields?, Entries.only?_filter version, Entries.only?_filter inferred,
    Entries.atMostOne?_filter observations]

theorem ofDocument?_object (ms : List (Option String × Written)) :
    ofDocument? (.object ms) = if ms.all fun m => m.1.isSome then
      Written.json? Written.maxNesting (.object (ms.filter fun m => m.1.any isField)) else none := by
  have same (m : Option String × Written) :
      (fieldNames.any fun name => m.1 == some name) = m.1.any isField := by
    rcases m with ⟨- | k, w⟩
    · simp
    · simp [isField]
  simp only [ofDocument?, same]

/-- What a document holds of a snapshot is read as all that it denotes. -/
theorem ofDocument?_bind {w : Written} {v : Json} (h : w.json? Written.maxNesting = some v) :
    (ofDocument? w).bind ofJson? = ofJson? v := by
  cases w with
  | object ms =>
    rw [Written.json?, if_neg (by decide), Option.map_eq_some_iff] at h
    obtain ⟨members, found, rfl⟩ := h
    rw [ofDocument?_object, if_pos (Written.all_isSome_of_jsonMembers? found), Written.json?,
      if_neg (by decide), Written.jsonMembers?_filter isField found]
    exact ofFields?_filter members
  | null | bool _ | number _ | string _ | array _ =>
    exact congrArg (Option.bind · ofJson?) h

theorem isSnapshot_of_validate {s : Snapshot} {e : Failure} (h : s.validate = .error e) :
    e.isSnapshot = true := by
  unfold validate at h
  split at h
  · split at h
    · cases h
      rfl
    · cases h
  · cases h
    rfl

/-- Whatever is wrong with a snapshot, it is a failure of snapshots. -/
theorem isSnapshot_of_checked {problem : String} {read : Option Snapshot} {e : Failure}
    (h : checked problem read = .error e) : e.isSnapshot = true := by
  cases read with
  | none =>
    cases h
    rfl
  | some r =>
    rw [checked] at h
    cases valid : r.validate with
    | error failure =>
      rw [valid] at h
      cases h
      exact isSnapshot_of_validate valid
    | ok u =>
      rw [valid] at h
      cases h

/-- A text in which no object repeats a key and the value that it denotes give the same snapshot or
none at all, and then snapshots are to blame both times. -/
theorem ofText_and_ofJson {text : String} {v : Json} (document : Json.read? text = some v)
    (distinct : Json.KeysDistinct text) :
    (∀ s, ofText text = .ok s ↔ ofJson v = .ok s) ∧
      (∀ e, ofText text = .error e → e.isSnapshot = true) ∧
      ∀ e, ofJson v = .error e → e.isSnapshot = true := by
  obtain ⟨u, denoted, rfl⟩ := Option.map_eq_some_iff.1 document
  obtain ⟨w, written, value⟩ := Option.bind_eq_some_iff.1 denoted
  have text_read : ofText text = checked "Failed to parse snapshot JSON" (ofJson? u) := by
    rw [ofText, written, Option.bind_some, ofDocument?_bind value]
  have value_read : ofJson u.canonical = checked "Failed to decode snapshot" (ofJson? u) := by
    rw [ofJson, ofJson?_canonical (distinct u denoted)]
  refine ⟨fun s => ?_, fun e h => ?_, fun e h => ?_⟩
  · rw [text_read, value_read, checked_eq_ok_iff, checked_eq_ok_iff]
  · rw [text_read] at h
    exact isSnapshot_of_checked h
  · rw [value_read] at h
    exact isSnapshot_of_checked h

/-- A snapshot with its fields in another order, one more member among them, the shape in arrays and the
count left out. -/
def unusual : Json :=
  .object [("y", .array []), ("inferred", .array [.string "nullable", .array [.string "boolean"]]),
    ("version", .ofNat 1)]

theorem ofText_and_ofJson_unusual :
    Json.read? unusual.compact = some unusual.canonical ∧ Json.KeysDistinct unusual.compact ∧
      ofJson unusual.canonical = .ok ⟨1, 0, .nullable .boolean⟩ ∧
      ofText unusual.compact = .ok ⟨1, 0, .nullable .boolean⟩ := by
  have shallow : unusual.nesting ≤ Written.maxNesting := by decide
  have reread : unusual.reread? = some unusual := by
    simp [unusual, Json.reread?, Json.rereadMembers?, Json.rereadItems?, Json.reread?_ofNat]
  have document : Json.read? unusual.compact = some unusual.canonical := by
    rw [Json.read?_compact, if_pos shallow, reread]
    rfl
  have distinct : Json.KeysDistinct unusual.compact := by
    intro v h
    rw [Written.ofText?_compact, Option.bind_some, Written.json?_written, if_pos shallow,
      reread] at h
    cases h
    simp [unusual, Json.Distinct, Json.DistinctMembers, Json.DistinctItems, Entries.keys, Json.ofNat]
  have value : ofJson unusual.canonical = .ok ⟨1, 0, .nullable .boolean⟩ := rfl
  exact ⟨document, distinct, value, ((ofText_and_ofJson document distinct).1 _).2 value⟩

end Snapshot

end JsonShape
