import Mathlib.Data.String.Basic
import JsonShape.Proofs.Records
import JsonShape.Proofs.Survey.Run

/-!
# Surveys resumed from their own text

A survey of the records of any texts is written and read back as it was, exactly if its shape is not
too deep and the ends of its ranges are read back (`reload_of_ofTexts`). The first condition does not
follow from what texts are accepted: objects nested 63 deep are, and the shape of one such document is too
deep to be read back (`not_reload_nested`), since a shape takes two levels for an object. It holds of
all records that nest at most 24 deep (`reload_of_shallow`).
-/

set_option autoImplicit false

namespace JsonShape

namespace Survey

/-- The survey of the records of several texts, each cut up as its settings ask for. -/
def ofTexts (d : Detectors) (texts : List (InputSettings × String)) : Except Failure Survey := do
  let records ← texts.mapM fun t => Records.decode t.1 t.2
  .ok ((start d).observeAll records.flatten)

/-- A survey written as a text, and resumed from that text. -/
def reload (d : Detectors) (s : Survey) : Except Failure Survey := do
  let kept ← Snapshot.ofText s.snapshot.toText
  resume d kept

/-! ## Any survey -/

/-- A survey comes back from its own text exactly if its snapshot does. -/
theorem reload_eq_ok_iff (d : Detectors) {s : Survey} (wellFormed : s.shape.WellFormed) :
    s.reload d = .ok ⟨d, s.shape, s.observations⟩ ↔
      s.shape.depth < Written.maxNesting ∧ s.shape.Faithful := by
  have back : Snapshot.ofText s.snapshot.toText = .ok s.snapshot ↔
      s.shape.depth < Written.maxNesting ∧ s.shape.Faithful :=
    Snapshot.ofText_toText_eq_ok_iff rfl wellFormed
  rw [← back, reload]
  constructor
  · intro h
    cases read : Snapshot.ofText s.snapshot.toText with
    | error failure =>
      rw [read] at h
      cases h
    | ok kept =>
      have valid := (Snapshot.checked_eq_ok_iff.1 read).2
      obtain ⟨version, -⟩ := Snapshot.validate_eq_ok_iff.1 valid
      rw [read] at h
      change (kept.validate.map fun _ => Survey.mk d kept.shape kept.observations) = _ at h
      rw [valid] at h
      injection h with same
      injection same with _ shape count
      rw [snapshot, ← version, ← shape, ← count]
  · intro read
    rw [read]
    exact resume_snapshot d wellFormed.sound

/-- A survey whose shape is too deep has a text that cannot be parsed. -/
theorem reload_of_deep (d : Detectors) {s : Survey} (wellFormed : s.shape.WellFormed)
    (deep : Written.maxNesting ≤ s.shape.depth) :
    s.reload d = .error (.snapshot "Failed to parse snapshot JSON") := by
  have shape : ¬ s.snapshot.shape.depth < Written.maxNesting := Nat.not_lt.2 deep
  rw [reload, Snapshot.ofText_toText (s := s.snapshot) rfl wellFormed, if_neg shape]
  rfl

/-! ## Surveys of texts -/

theorem canonical_of_mapM_decode {texts : List (InputSettings × String)} {records : List (List Json)}
    (h : texts.mapM (fun t => Records.decode t.1 t.2) = .ok records) :
    ∀ v ∈ records.flatten, v.Canonical := by
  induction texts generalizing records with
  | nil =>
    cases h
    exact fun v hv => nomatch hv
  | cons t texts ih =>
    rw [List.mapM_cons] at h
    cases first : Records.decode t.1 t.2 with
    | error e =>
      rw [first] at h
      cases h
    | ok vs =>
      cases others : texts.mapM fun t => Records.decode t.1 t.2 with
      | error e =>
        rw [first, others] at h
        cases h
      | ok more =>
        rw [first, others] at h
        cases h
        rw [List.flatten_cons, List.forall_mem_append]
        exact ⟨Records.canonical_of_decode first, ih others⟩

theorem wellFormed_of_ofTexts {d : Detectors} {texts : List (InputSettings × String)} {s : Survey}
    (h : ofTexts d texts = .ok s) : s.shape.WellFormed := by
  rw [ofTexts] at h
  cases decoded : texts.mapM fun t => Records.decode t.1 t.2 with
  | error e =>
    rw [decoded] at h
    cases h
  | ok records =>
    rw [decoded] at h
    cases h
    exact (invariant_covering.observeAll (covering_start d)
      (canonical_of_mapM_decode decoded)).wellFormed

/-- A survey of texts is resumed from its own text with the same shape and count exactly if the shape is
not too deep and the ends of its ranges are read back; if it is too deep, the text cannot be parsed. -/
theorem reload_of_ofTexts (d d' : Detectors) (texts : List (InputSettings × String)) {s : Survey}
    (h : ofTexts d texts = .ok s) :
    (s.reload d' = .ok ⟨d', s.shape, s.observations⟩ ↔
      s.shape.depth < Written.maxNesting ∧ s.shape.Faithful) ∧
    (Written.maxNesting ≤ s.shape.depth →
      s.reload d' = .error (.snapshot "Failed to parse snapshot JSON")) :=
  ⟨reload_eq_ok_iff d' (wellFormed_of_ofTexts h), reload_of_deep d' (wellFormed_of_ofTexts h)⟩

/-- A document of one value and one of lines, with a blank line. -/
theorem reload_of_ofTexts_mixed :
    ofTexts .none [(.whole, (Json.array [.bool true, .null]).pretty),
      (⟨.jsonLines, none, false⟩, "true\n\nnull")] =
        .ok ⟨.none, .nullable (.anyOf [.array (.nullable .boolean), .boolean]), 3⟩ ∧
    reload .all ⟨.none, .nullable (.anyOf [.array (.nullable .boolean), .boolean]), 3⟩ =
      .ok ⟨.all, .nullable (.anyOf [.array (.nullable .boolean), .boolean]), 3⟩ := by
  have document : Records.decode .whole (Json.array [.bool true, .null]).pretty =
      .ok [.array [.bool true, .null]] := by
    simp only [Records.decode, InputSettings.whole, Records.ofJson, Json.read?_pretty]
    rfl
  have lines : Records.decode ⟨.jsonLines, none, false⟩ "true\n\nnull" = .ok [.bool true, .null] := rfl
  have survey : ofTexts .none [(.whole, (Json.array [.bool true, .null]).pretty),
      (⟨.jsonLines, none, false⟩, "true\n\nnull")] =
        .ok ⟨.none, .nullable (.anyOf [.array (.nullable .boolean), .boolean]), 3⟩ := by
    rw [ofTexts, List.mapM_cons, List.mapM_cons, document, lines]
    rfl
  exact ⟨survey, (reload_of_ofTexts .none .all _ survey).1.2 ⟨by decide, by decide⟩⟩

/-! ## Shallow records -/

/-- Values change a survey's shape and its count, each on its own. -/
theorem observeAll_eq (s : Survey) (values : List Json) :
    s.observeAll values =
      ⟨s.detectors, Shape.absorbAll s.detectors values s.shape,
        s.observations + .ofNat values.length⟩ := by
  induction values generalizing s with
  | nil =>
    have same : s.observations + .ofNat 0 = s.observations := UInt64.add_zero _
    rw [List.length_nil, same]
    rfl
  | cons v values ih =>
    rw [List.length_cons, Nat.add_comm, UInt64.ofNat_add, ← UInt64.add_assoc]
    exact ih (s.observe v)

theorem shape_observeAll (s : Survey) (values : List Json) :
    (s.observeAll values).shape = Shape.absorbAll s.detectors values s.shape := by
  rw [observeAll_eq]

/-- Records that nest at most 24 deep can be surveyed and resumed, however they differ, if the ends of the
ranges are read back. -/
theorem reload_of_shallow (d d' : Detectors) {records : List Json}
    (canonical : ∀ v ∈ records, v.Canonical) (shallow : ∀ v ∈ records, v.nesting ≤ 24)
    (faithful : (Shape.absorbAll d records .unknown).Faithful) :
    ((start d).observeAll records).reload d' =
      .ok ⟨d', Shape.absorbAll d records .unknown, .ofNat records.length⟩ := by
  have covering := invariant_covering.observeAll (covering_start d) canonical
  have shape : ((start d).observeAll records).shape = Shape.absorbAll d records .unknown :=
    shape_observeAll (start d) records
  have count : ((start d).observeAll records).observations = .ofNat records.length := covering.count
  have depth := Shape.depth_absorbAll_le d canonical shallow
  have within : (Shape.absorbAll d records .unknown).depth < Written.maxNesting := by
    show _ < 127
    omega
  have back := (reload_eq_ok_iff d' covering.wellFormed).2
  rw [shape, count] at back
  exact back ⟨within, faithful⟩

/-! ## The survey as it was -/

theorem observeAll_append (s : Survey) (values more : List Json) :
    s.observeAll (values ++ more) = (s.observeAll values).observeAll more :=
  List.foldl_append

theorem detectors_observeAll (s : Survey) (values : List Json) :
    (s.observeAll values).detectors = s.detectors := by
  rw [observeAll_eq]

/-- A survey is the same after it has been written and read back, if what is written does not nest too
deep and the ends of its ranges are read back. -/
theorem reload_observeAll (d : Detectors) {records : List Json} (canonical : ∀ v ∈ records, v.Canonical)
    (shallow : ((start d).observeAll records).snapshot.toJson.nesting < 128)
    (faithful : ((start d).observeAll records).shape.Faithful) :
    ((start d).observeAll records).reload d = .ok ((start d).observeAll records) := by
  have covering := invariant_covering.observeAll (covering_start d) canonical
  have within : ((start d).observeAll records).shape.depth < Written.maxNesting := by
    rw [Snapshot.nesting_toJson] at shallow
    exact Nat.lt_of_succ_lt_succ shallow
  have looked : ((start d).observeAll records).detectors = d := detectors_observeAll (start d) records
  rw [(reload_eq_ok_iff d covering.wellFormed).2 ⟨within, faithful⟩]
  congr 1
  rw [Survey.mk.injEq]
  exact ⟨looked.symm, rfl, rfl⟩

/-! ## Objects inside one another -/

/-- Objects of one key inside one another, around a truth value. -/
def nested : Nat → Json
  | 0 => .bool true
  | n + 1 => .object [("a", nested n)]

/-- The shape of `nested`. -/
def nestedShape : Nat → Shape
  | 0 => .boolean
  | n + 1 => .object ⟨[("a", nestedShape n)], []⟩

theorem canonical_nested : ∀ n, (nested n).Canonical
  | 0 => trivial
  | n + 1 => ⟨List.pairwise_singleton _ _, canonical_nested n, trivial⟩

theorem faithful_nested : ∀ n, (nested n).Faithful
  | 0 => by simp [nested, Json.Faithful, Json.numbers]
  | n + 1 => by simpa [nested, Json.faithful_object_iff] using faithful_nested n

theorem nesting_nested : ∀ n, (nested n).nesting = n
  | 0 => rfl
  | n + 1 => by simp [nested, Json.nesting, Json.nestingMembers, nesting_nested n]

theorem absorb_nested (d : Detectors) : ∀ n, Shape.absorb d (nested n) .unknown = nestedShape n
  | 0 => rfl
  | n + 1 => by
    rw [nested, Shape.absorb, Shape.receive, Shape.shapesOf, Shape.shapesOf, absorb_nested d n,
      nestedShape]

theorem depth_nestedShape : ∀ n, (nestedShape n).depth = 2 * n + 1
  | 0 => rfl
  | n + 1 => by
    simp only [nestedShape, Shape.depth, Shape.depthOfProperties, depth_nestedShape n]
    omega

/-- Their text is accepted up to the nesting that is read. -/
theorem ofTexts_nested (d : Detectors) {n : Nat} (h : n ≤ Written.maxNesting) :
    ofTexts d [(.whole, (nested n).pretty)] = .ok ⟨d, nestedShape n, 1⟩ := by
  have shallow : (nested n).nesting ≤ Written.maxNesting := by rwa [nesting_nested]
  have read := Json.read?_pretty_of_faithful (canonical_nested n) (faithful_nested n) shallow
  have decoded : Records.decode .whole (nested n).pretty = .ok [nested n] := by
    simp only [Records.decode, InputSettings.whole, Records.ofJson, read, Records.ofDocument]
    cases n <;> rfl
  have observed : (start d).observe (nested n) = ⟨d, nestedShape n, 1⟩ := by
    rw [observe, start, absorb_nested]
    rfl
  rw [ofTexts, List.mapM_cons, decoded, ← observed]
  rfl

/-- A document whose survey cannot be resumed from its own text. -/
theorem not_reload_nested :
    ofTexts .all [(.whole, (nested 63).pretty)] = .ok ⟨.all, nestedShape 63, 1⟩ ∧
    reload .all ⟨.all, nestedShape 63, 1⟩ =
      .error (.snapshot "Failed to parse snapshot JSON") := by
  have accepted := ofTexts_nested .all (n := 63) (by decide)
  refine ⟨accepted, reload_of_deep .all (wellFormed_of_ofTexts accepted) ?_⟩
  show Written.maxNesting ≤ (nestedShape 63).depth
  rw [depth_nestedShape]
  decide

end Survey

end JsonShape
