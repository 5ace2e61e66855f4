import Mathlib.Data.String.Basic
import JsonShape.Proofs.Json.Reading
import JsonShape.Proofs.Shape.Depth
import JsonShape.Proofs.Shape.Preservation
import JsonShape.Proofs.Shape.Reordering
import JsonShape.Proofs.Shape.Rereading
import JsonShape.Snapshot

/-!
# Snapshots read back

The text of a snapshot of the current version with a well-formed shape is read back as a snapshot of the
same count, with the ends of its ranges as their texts are read (`ofText_toText`). So it is the snapshot
itself, unless the shape is so deep that the text nests deeper than what is read, or some end comes back as
another number (`ofText_toText_eq_ok_iff`). The value of a snapshot has its members in another order than
the text, which is read alike (`ofJson?_canonical`); it is not limited in how deep it nests and holds the
ends themselves, so it always comes back (`ofJson_and_ofText_written`).

The greatest safe integer is an end that does not come back (`ofText_toText_maxSafe`).
-/

set_option autoImplicit false

namespace JsonShape

/-! ## Counts -/

theorem Json.nesting_ofNat (n : Nat) : (ofNat n).nesting = 0 := by
  unfold ofNat
  split <;> rfl

theorem Json.reread?_ofNat (n : Nat) : (ofNat n).reread? = some (ofNat n) := by
  unfold ofNat
  split
  · exact reread?_eq_self_iff.2 (faithful_number_iff.2 (Number.faithful_integer _))
  · rfl

namespace Snapshot

/-- A snapshot passes its check if it is of the current version and its shape is sound. -/
theorem validate_eq_ok_iff {s : Snapshot} :
    s.validate = .ok () ↔ s.version = currentVersion ∧ s.shape.Sound := by
  rw [validate]
  split
  · next version =>
    cases found : s.shape.check with
    | none => simp [version, Shape.sound_of_check found]
    | some breach =>
      simp only [reduceCtorEq, version, true_and, false_iff]
      intro sound
      rw [Shape.check_of_sound sound] at found
      cases found
  · next version => simp [version]

theorem validate_of_sound {s : Snapshot} (version : s.version = currentVersion)
    (sound : s.shape.Sound) : s.validate = .ok () :=
  validate_eq_ok_iff.2 ⟨version, sound⟩

theorem nesting_toJson (s : Snapshot) : s.toJson.nesting = s.shape.depth + 1 := by
  simp [toJson, Json.nesting, Json.nestingMembers, Json.nesting_ofNat, Shape.nesting_toJson]

/-- The value of a snapshot is read as that of the snapshot with its shape as it is read. -/
theorem reread?_toJson {s : Snapshot} (sound : s.shape.Sound) :
    s.toJson.reread? = s.shape.reread?.map fun t => toJson { s with shape := t } := by
  simp only [toJson, Json.reread?, Json.rereadMembers?, Json.reread?_ofNat, Shape.reread?_toJson sound]
  cases s.shape.reread? <;> rfl

/-- All members of a snapshot that was written are fields, so none is passed over. -/
theorem ofDocument?_written (s : Snapshot) :
    ofDocument? s.toJson.written =
      if s.shape.depth < Written.maxNesting then s.toJson.reread? else none := by
  have whole : ofDocument? s.toJson.written = Written.json? Written.maxNesting s.toJson.written := by
    simp [toJson, Json.written, Json.writtenMembers, ofDocument?, fieldNames]
  rw [whole, Written.json?_written, nesting_toJson]
  rfl

theorem ofJson?_toJson {s : Snapshot} (version : s.version = currentVersion)
    (shape : s.shape.ReadsBack) : ofJson? s.toJson = some s := by
  obtain ⟨v, n, t⟩ := s
  simp only at version shape
  subst version
  have count : (Json.ofNat n.toNat).nat? = some n.toNat := by
    rw [Json.nat?_ofNat, if_pos n.toNat_lt]
  simp [toJson, ofJson?, ofFields?, Entries.only?, Entries.atMostOne?, Json.nat?_ofNat, count,
    shape.ofJson?, currentVersion]

/-- The text of a snapshot is read, if it does not nest too deep, as the snapshot with the ends of its
ranges as their texts are read, and that is checked. -/
theorem ofText_toText {s : Snapshot} (version : s.version = currentVersion)
    (wellFormed : s.shape.WellFormed) :
    ofText s.toText = checked "Failed to parse snapshot JSON"
      (if s.shape.depth < Written.maxNesting then s.shape.reread?.map fun t => { s with shape := t }
      else none) := by
  rw [ofText, toText, Written.ofText?_pretty, Option.bind_some, ofDocument?_written]
  split
  · rw [reread?_toJson wellFormed.sound]
    cases read : s.shape.reread? with
    | none => rfl
    | some t =>
      have back := Shape.readsBack_of_reread? wellFormed.canonical read
      exact congrArg _ (ofJson?_toJson (s := { s with shape := t }) version back)
  · rfl

theorem checked_eq_ok_iff {problem : String} {read : Option Snapshot} {s : Snapshot} :
    checked problem read = .ok s ↔ read = some s ∧ s.validate = .ok () := by
  cases read with
  | none => simp [checked]
  | some r =>
    rw [checked, Option.some.injEq]
    cases valid : r.validate with
    | error e =>
      have other : ¬ (r = s ∧ s.validate = .ok ()) := by
        rintro ⟨rfl, ok⟩
        rw [valid] at ok
        cases ok
      simp [Except.map, other]
    | ok u =>
      constructor
      · rintro ⟨⟩
        exact ⟨rfl, valid⟩
      · rintro ⟨rfl, -⟩
        rfl

/-- A snapshot comes back from its text exactly if its shape is not too deep and all ends of its ranges
are read back. -/
theorem ofText_toText_eq_ok_iff {s : Snapshot} (version : s.version = currentVersion)
    (wellFormed : s.shape.WellFormed) :
    ofText s.toText = .ok s ↔ s.shape.depth < Written.maxNesting ∧ s.shape.Faithful := by
  rw [ofText_toText version wellFormed, checked_eq_ok_iff,
    ← Shape.reread?_eq_self_iff wellFormed.canonical wellFormed.sound,
    and_iff_left (validate_of_sound version wellFormed.sound)]
  split
  · next shallow =>
    rw [Option.map_eq_some_iff, and_iff_right shallow]
    constructor
    · rintro ⟨t, read, same⟩
      rw [read, ← congrArg Snapshot.shape same]
    · intro read
      exact ⟨s.shape, read, rfl⟩
  · next deep => simp [deep]

/-! ## Members in another order -/

theorem ofFields?_of_perm {fields fields' : Entries Json} (h : fields.Perm fields') :
    ofFields? fields = ofFields? fields' := by
  simp only [ofFields?, Entries.only?_of_perm h, Entries.atMostOne?_of_perm h]

theorem ofFields?_canonical {fields : Entries Json} (h : ∀ e ∈ fields, e.2.Distinct) :
    ofFields? (Entries.mapValues Json.canonical fields) = ofFields? fields := by
  have shape : ((Entries.only? "inferred" fields).map Json.canonical).bind Shape.ofJson? =
      (Entries.only? "inferred" fields).bind Shape.ofJson? := by
    cases found : Entries.only? "inferred" fields with
    | none => rfl
    | some v => exact Shape.ofJson?_canonical (h _ (Entries.mem_of_only? found))
  have version : ((Entries.only? "version" fields).map Json.canonical).bind Json.nat? =
      (Entries.only? "version" fields).bind Json.nat? := by
    simp only [Option.bind_map, Function.comp_def, Json.nat?_canonical]
  simp only [ofFields?, Entries.only?_mapValues, Entries.atMostOne?_mapValues, shape, version]
  rcases Entries.atMostOne? "observations" fields with - | - | v
  · rfl
  · rfl
  · simp only [Option.map_some, Json.nat?_canonical]

/-- A snapshot is read alike from a value and from that value put in order. -/
theorem ofJson?_canonical {v : Json} (h : v.Distinct) : ofJson? v.canonical = ofJson? v := by
  cases v with
  | object members =>
    rw [Json.canonical, ofJson?, ofJson?,
      ofFields?_of_perm (Json.ofList_canonicalMembers_perm h.1),
      Json.canonicalMembers_eq_mapValues, ofFields?_canonical (Json.distinctMembers_iff.1 h.2)]
  | array items =>
    have zipped : ofFields? ((fieldNames.zip items).map (Prod.map id Json.canonical)) =
        ofFields? (fieldNames.zip items) :=
      ofFields?_canonical fun e he => Json.distinctItems_iff.1 h _ (List.of_mem_zip he).2
    rw [Json.canonical, ofJson?, ofJson?, Json.canonicalItems_eq_map, List.length_map,
      List.zip_map_right, zipped]
  | null | bool _ | number _ | string _ => rfl

theorem distinct_toJson {s : Snapshot} (h : s.shape.Canonical) : s.toJson.Distinct := by
  have count (n : Nat) : (Json.ofNat n).Distinct := by
    unfold Json.ofNat
    split <;> trivial
  exact ⟨by simp [Entries.keys], count _, count _, Shape.distinct_toJson h, trivial⟩

/-! ## The round trip -/

/-- A snapshot that passes its check comes back as it was from its value, with the members in order. From
its text it does, unless that nests too deep to be read, exactly if all ends of its ranges do. -/
theorem ofJson_and_ofText_written {s : Snapshot} (ordered : s.shape.Canonical)
    (valid : s.validate = .ok ()) :
    ofJson s.toJson.canonical = .ok s ∧
      (s.toJson.nesting < 128 → (ofText s.toText = .ok s ↔ s.shape.Faithful)) := by
  obtain ⟨version, sound⟩ := validate_eq_ok_iff.1 valid
  have wellFormed : s.shape.WellFormed := ⟨ordered, sound⟩
  constructor
  · rw [ofJson, ofJson?_canonical (distinct_toJson ordered),
      ofJson?_toJson version (Shape.readsBack ordered sound), checked, valid]
    rfl
  · intro shallow
    have within : s.shape.depth < Written.maxNesting := by
      rw [nesting_toJson] at shallow
      exact Nat.lt_of_succ_lt_succ shallow
    rw [ofText_toText_eq_ok_iff version wellFormed, and_iff_right within]

/-- The largest count, a range from a negative zero on, and keys that are empty or named like a field. -/
theorem ofJson_and_ofText_written_object :
    let t : Shape := .object
      ⟨[("", .float ⟨.ofUnits true 0 1, .ofInt 7⟩)], [("type", .array .unknown)]⟩
    let s : Snapshot := ⟨1, 0xffffffffffffffff, t⟩
    s.shape.Canonical ∧ s.validate = .ok () ∧ s.toJson.nesting < 128 ∧
      ofJson s.toJson.canonical = .ok s ∧ ofText s.toText = .ok s := by
  intro t s
  have range : Interval.Valid ⟨.ofUnits true 0 1, .ofInt 7⟩ :=
    ⟨by decide +kernel, by decide +kernel, by decide +kernel⟩
  have ordered : t.Canonical := by
    simp [t, Shape.Canonical, Shape.CanonicalProperties, Entries.Ordered, Entries.keys]
  have sound : t.Sound := by
    simp [t, Shape.Sound, Shape.SoundProperties, Shape.isUnknown, Entries.keys, range]
  have faithful : t.Faithful := by decide +kernel
  have valid : s.validate = .ok () := validate_of_sound rfl sound
  have shallow : s.toJson.nesting < 128 := by
    rw [nesting_toJson]
    decide
  obtain ⟨value, text⟩ := ofJson_and_ofText_written ordered valid
  exact ⟨ordered, valid, shallow, value, (text shallow).2 faithful⟩

/-- A range at the greatest safe integer is read back one lower. -/
theorem ofText_toText_maxSafe :
    let top : Interval := ⟨.ofInt Double.maxSafe, .ofInt Double.maxSafe⟩
    let below : Interval := ⟨.ofInt (Double.maxSafe - 1), .ofInt (Double.maxSafe - 1)⟩
    let s : Snapshot := ⟨1, 1, .int top⟩
    s.shape.Canonical ∧ s.validate = .ok () ∧ s.toJson.nesting < 128 ∧
      ofText s.toText = .ok { s with shape := .int below } ∧ ofText s.toText ≠ .ok s := by
  intro top below s
  have range : top.Valid := ⟨by decide +kernel, by decide +kernel, by decide +kernel⟩
  have range' : below.Valid := ⟨by decide +kernel, by decide +kernel, by decide +kernel⟩
  have other : below ≠ top := by decide +kernel
  have read : top.reread? = some below := by decide +kernel
  have text : ofText s.toText = .ok { s with shape := .int below } := by
    rw [ofText_toText (s := s) rfl ⟨trivial, range⟩, if_pos (by decide), checked_eq_ok_iff]
    refine ⟨?_, validate_of_sound rfl range'⟩
    rw [Shape.reread?, read]
    rfl
  refine ⟨trivial, validate_of_sound rfl range, ?_, text, fun same => other ?_⟩
  · rw [nesting_toJson]
    decide
  · rw [text] at same
    exact Shape.int.inj (congrArg Snapshot.shape (Except.ok.inj same))

end Snapshot

end JsonShape
