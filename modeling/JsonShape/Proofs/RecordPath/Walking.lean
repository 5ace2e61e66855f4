import Mathlib.Data.List.TakeWhile
import JsonShape.Proofs.Json.Reading
import JsonShape.Proofs.RecordPath.Spelling
import JsonShape.Proofs.Records

/-!
# Where record paths lead

`RecordPath.Reaches moves v w`: from `v` one gets to `w` by names and indices, one after another;
`Selects` are the records at the place. A path means the moves that its names and brackets stand
for, from left to right.

A path whose segments have one pair of brackets at most, without a star and without brackets at its
root, selects what it means (`Spelling.decode_of_plain`). With more brackets nothing is found, and
brackets at the root make the root a name (`Spelling.decode_of_doubled_or_indexed`).
-/

set_option autoImplicit false

namespace JsonShape

/-- Where an item lies in an array of some length, if its index may be counted from the end. -/
def Json.place (index : Int) (length : Nat) : Int :=
  if index < 0 then length + index else index

theorem Json.item?_array (index : Int) (items : List Json) :
    (array items).item? index =
      if 0 ≤ place index items.length then items[(place index items.length).toNat]? else none :=
  rfl

/-- No sum leaves 64 bits, as long as the length of the array does not. -/
theorem Json.place_fits {index : Int} {length : Nat}
    (h : -0x8000000000000000 ≤ index ∧ index < 0x8000000000000000)
    (short : length < 0x8000000000000000) :
    -0x8000000000000000 ≤ place index length ∧ place index length < 0x8000000000000000 := by
  unfold place
  split <;> omega

namespace RecordPath

/-! ## Moves -/

/-- A move down from a value. -/
inductive Move where
  /-- To a member of an object. -/
  | name (key : String)
  /-- To an item of an array, counted from the end if the index is negative. -/
  | index (i : Int)
  /-- To every item of an array. -/
  | all
deriving DecidableEq, Repr

/-- A move to one part of a value. -/
inductive Leads : Move → Json → Json → Prop where
  | name {key : String} {members : List (String × Json)} {w : Json} :
      (key, w) ∈ members → Leads (.name key) (.object members) w
  | fromStart {i : Int} {before after : List Json} {w : Json} :
      i = before.length → Leads (.index i) (.array (before ++ w :: after)) w
  | fromEnd {i : Int} {before after : List Json} {w : Json} :
      i = -(after.length + 1) → Leads (.index i) (.array (before ++ w :: after)) w

/-- Moves one after another. -/
inductive Reaches : List Move → Json → Json → Prop where
  | here (v : Json) : Reaches [] v v
  | step {m : Move} {moves : List Move} {v w u : Json} :
      Leads m v w → Reaches moves w u → Reaches (m :: moves) v u

/-- The records at the place that moves reach: the items of an array, or the value itself. -/
inductive Selects (moves : List Move) (v : Json) : List Json → Prop where
  | items {items : List Json} : Reaches moves v (.array items) → Selects moves v items
  | single {w : Json} : Reaches moves v w → (∀ items, w ≠ .array items) → Selects moves v [w]
  | nothing : (∀ w, ¬ Reaches moves v w) → Selects moves v []

/-- The part of a value that a move to one part leads to. -/
def Move.go? : Move → Json → Option Json
  | name key, v => v.get? key
  | index i, v => v.item? i
  | all, _ => none

/-- The place that moves lead to. -/
def reach? : List Move → Json → Option Json
  | [], v => some v
  | m :: moves, v => (m.go? v).bind (reach? moves)

section

variable {m : Move} {moves : List Move} {v w : Json}

theorem canonical_of_go? (h : v.Canonical) (hw : m.go? v = some w) : w.Canonical := by
  cases m with
  | name key => exact h.get? hw
  | index i => exact h.item? hw
  | all => cases hw

theorem item?_eq_some_iff {i : Int} : v.item? i = some w ↔ Leads (.index i) v w := by
  constructor
  · intro h
    cases v with
    | array items =>
      rw [Json.item?_array] at h
      split at h
      next inside =>
        obtain ⟨lt, eq⟩ := List.getElem?_eq_some_iff.1 h
        have cut : items = items.take (Json.place i items.length).toNat ++
            w :: items.drop ((Json.place i items.length).toNat + 1) := by
          rw [← eq, List.cons_getElem_drop_succ, List.take_append_drop]
        by_cases negative : i < 0
        · rw [cut]
          refine .fromEnd ?_
          rw [List.length_drop]
          simp only [Json.place, if_pos negative] at inside lt ⊢
          omega
        · rw [cut]
          refine .fromStart ?_
          rw [List.length_take]
          simp only [Json.place, if_neg negative] at inside lt ⊢
          omega
      · cases h
    | _ => cases h
  · intro h
    cases h with
    | @fromStart _ before after _ eq =>
      have place : Json.place i (before ++ w :: after).length = before.length := by
        rw [Json.place, if_neg (by omega), eq]
      rw [Json.item?_array, place, if_pos (Int.natCast_nonneg _), Int.toNat_natCast]
      simp
    | @fromEnd _ before after _ eq =>
      have place : Json.place i (before ++ w :: after).length = before.length := by
        rw [Json.place, if_pos (by omega), eq, List.length_append, List.length_cons]
        omega
      rw [Json.item?_array, place, if_pos (Int.natCast_nonneg _), Int.toNat_natCast]
      simp

theorem go?_eq_some_iff (h : v.Canonical) : m.go? v = some w ↔ Leads m v w := by
  cases m with
  | index i => exact item?_eq_some_iff
  | all => exact ⟨nofun, nofun⟩
  | name key =>
    constructor
    · intro hw
      cases v with
      | object members => exact .name (Entries.mem_of_get? hw)
      | _ => cases hw
    · rintro ⟨mem⟩
      exact Entries.get?_of_mem h.1.nodup mem

theorem reach?_eq_some_iff (h : v.Canonical) : reach? moves v = some w ↔ Reaches moves v w := by
  induction moves generalizing v with
  | nil =>
    constructor
    · rintro ⟨⟩
      exact .here _
    · rintro ⟨⟩
      rfl
  | cons m moves ih =>
    rw [reach?, Option.bind_eq_some_iff]
    constructor
    · rintro ⟨u, hu, hw⟩
      exact .step ((go?_eq_some_iff h).1 hu) ((ih (canonical_of_go? h hu)).1 hw)
    · rintro (_ | ⟨lead, reach⟩)
      have hu := (go?_eq_some_iff h).2 lead
      exact ⟨_, hu, (ih (canonical_of_go? h hu)).2 reach⟩

/-- Just the records at the place that is reached are selected. -/
theorem selects_iff (h : v.Canonical) {records : List Json} :
    Selects moves v records ↔ records = recordsAt (reach? moves v) := by
  constructor
  · rintro (reach | ⟨reach, other⟩ | none)
    · rw [(reach?_eq_some_iff h).2 reach]
      rfl
    · rw [(reach?_eq_some_iff h).2 reach]
      unfold recordsAt
      split
      next eq => exact absurd (Option.some.inj eq) (other _)
      next eq => rw [Option.some.inj eq]
      next eq => cases eq
    · rw [Option.eq_none_iff_forall_ne_some.2 fun w hw => none w ((reach?_eq_some_iff h).1 hw)]
      rfl
  · rintro rfl
    unfold recordsAt
    split
    next items eq => exact .items ((reach?_eq_some_iff h).1 eq)
    next w other eq =>
      exact .single ((reach?_eq_some_iff h).1 eq) other
    next eq =>
      refine .nothing fun w hw => ?_
      cases eq.symm.trans ((reach?_eq_some_iff h).2 hw)

end

/-! ## What a path means -/

def Bracket.move : Bracket → Move
  | index i => .index i.value
  | all => .all

namespace Segment

/-- To the member of the name first, then to what the brackets select of it. -/
def moves (s : Segment) : List Move :=
  (s.name.map fun name => Move.name name.text).toList ++ s.brackets.map Bracket.move

variable {segments : List Segment}

theorem walk_cons {s : Segment} (single : s.brackets.length ≤ 1) (parts : List (List Char))
    (v : Json) : walk (s.chars :: parts) v =
      (v.child? (s.name.map Name.text)).bind fun place =>
        match s.brackets.head? with
        | none => walk parts place
        | some .all => some place
        | some (.index i) => (place.item? i.value).bind (walk parts) := by
  rw [walk, ofChars?_chars single, step]
  cases s.brackets.head? with
  | none => rfl
  | some b => cases b <;> rfl

/-- As long as every segment has one pair of brackets at most, the reader makes the moves of all, up
to the first star. -/
theorem walk_map_chars (single : ∀ s ∈ segments, s.brackets.length ≤ 1) :
    walk (segments.map chars) = reach? ((segments.flatMap moves).takeWhile (· ≠ .all)) := by
  induction segments with
  | nil => exact funext fun v => rfl
  | cons s segments ih =>
    rw [List.forall_mem_cons] at single
    funext v
    rw [List.map_cons, walk_cons single.1, ih single.2, List.flatMap_cons, moves]
    rcases name_or_bracket single.1 with ⟨n, name, brackets⟩ | ⟨b, brackets⟩ <;> rw [brackets]
    · simp [name, Json.child?, reach?, Move.go?]
    · cases b <;> cases s.name <;> simp [Json.child?, reach?, Move.go?, Bracket.move]

/-- Where there are more brackets and no star before them, nothing is found. -/
theorem walk_eq_none (starless : ∀ s ∈ segments, .all ∉ s.brackets)
    (many : ∃ s ∈ segments, 2 ≤ s.brackets.length) (v : Json) :
    walk (segments.map chars) v = none := by
  induction segments generalizing v with
  | nil => simp at many
  | cons s segments ih =>
    rw [List.forall_mem_cons] at starless
    by_cases here : 2 ≤ s.brackets.length
    · rw [List.map_cons, walk, ofChars?_eq_none here]
      rfl
    · have later : ∃ s ∈ segments, 2 ≤ s.brackets.length := by
        obtain ⟨s', mem, many⟩ := many
        rcases List.mem_cons.1 mem with rfl | mem
        · exact absurd many here
        · exact ⟨s', mem, many⟩
      rw [List.map_cons, walk_cons (by omega), Option.bind_eq_none_iff]
      intro place _
      split
      · exact ih starless.2 later place
      · next star => exact absurd (List.mem_of_mem_head? star) starless.1
      · exact Option.bind_eq_none_iff.2 fun item _ => ih starless.2 later item

end Segment

/-- Without a query the records are those of the place that the walk finds. -/
theorem decode_eq_recordsAt {settings : InputSettings} (form : settings.form = .json)
    {path text : String} (along : settings.recordPath = some path) {document : Json}
    (read : Json.read? text = some document) (walked : Records.isQuery path = false) :
    Records.decode settings text = .ok (recordsAt (walk (parts path) document)) := by
  rw [Records.decode, form]
  simp only [Records.ofJson, read, Records.ofDocument, along, Records.along, walked, find?,
    Bool.false_eq_true, if_false]

namespace Spelling

variable {p : Spelling}

/-- The moves that a path stands for; the root is the document. -/
def moves (p : Spelling) : List Move :=
  p.root.brackets.map Bracket.move ++ p.segments.flatMap Segment.moves

theorem flatMap_moves_parts (unindexed : p.root.brackets = []) :
    p.parts.flatMap Segment.moves = p.moves := by
  rw [parts_eq_segments unindexed, moves, unindexed]
  rfl

/-- To the reader a root with brackets is a name. -/
theorem flatMap_moves_parts_of_indexed (indexed : p.root.brackets ≠ []) :
    p.parts.flatMap Segment.moves = .name "$" :: p.moves := by
  unfold parts moves
  cases root : p.root with
  | absent | dotted => simp [root, Root.brackets] at indexed
  | indexed first more => simp [Segment.moves, Root.brackets, Name.dollar]

theorem takeWhile_moves_parts (starless : .all ∉ p.brackets) :
    (p.parts.flatMap Segment.moves).takeWhile (· ≠ .all) = p.parts.flatMap Segment.moves := by
  refine List.takeWhile_eq_self_iff.2 fun m hm => decide_eq_true ?_
  rintro rfl
  obtain ⟨s, hs, hm⟩ := List.mem_flatMap.1 hm
  rcases List.mem_append.1 hm with hm | hm
  · simp at hm
  · obtain ⟨b, hb, eq⟩ := List.mem_map.1 hm
    cases b with
    | index i => cases eq
    | all => exact starless (List.mem_flatMap.2 ⟨s, hs, hb⟩)

/-- There is one pair of brackets at most in a segment, none at the root, and no star in them. -/
structure Plain (p : Spelling) : Prop where
  single : ∀ s ∈ p.segments, s.brackets.length ≤ 1
  unindexed : p.root.brackets = []
  starless : .all ∉ p.brackets

/-- A plain path selects what it means, and no index of it leads out of 64 bits. -/
theorem decode_of_plain (plain : p.Plain) {settings : InputSettings} (form : settings.form = .json)
    (along : settings.recordPath = some p.text) {text : String} {document : Json}
    (read : Json.read? text = some document) :
    (∃ records, Records.decode settings text = .ok records ∧
      ∀ other, Selects p.moves document other ↔ other = records) ∧
    ∀ i, .index i ∈ p.brackets → ∀ length : Nat, length < 0x8000000000000000 →
      -0x8000000000000000 ≤ Json.place i.value length ∧
        Json.place i.value length < 0x8000000000000000 := by
  refine ⟨⟨recordsAt (reach? p.moves document), ?_, fun other =>
    selects_iff (Json.canonical_of_read? read)⟩, fun i _ length => Json.place_fits i.fits⟩
  have single : ∀ s ∈ p.parts, s.brackets.length ≤ 1 := by
    rw [parts_eq_segments plain.unindexed]
    exact plain.single
  rw [decode_eq_recordsAt form along read (isQuery_of_starless plain.starless), parts_text,
    Segment.walk_map_chars single, takeWhile_moves_parts plain.starless,
    flatMap_moves_parts plain.unindexed]

/-- The path `$.rows[-1]`. -/
def lastOfRows : Spelling where
  root := .dotted
  segments := [⟨some ⟨"rows", by decide, by decide⟩, [.index .last], nofun⟩]
  nonempty := nofun
  names := by decide

/-- The last row is an array, so its items are selected. -/
theorem decode_of_plain_last :
    lastOfRows.text = "$.rows[-1]" ∧ lastOfRows.Plain ∧
    Selects lastOfRows.moves (.object [("rows", .array [.bool true, .array [.null]])]) [.null] ∧
    Records.decode ⟨.json, some "$.rows[-1]", false⟩
      (Json.object [("rows", .array [.bool true, .array [.null]])]).pretty = .ok [.null] := by
  have text : lastOfRows.text = "$.rows[-1]" := by decide
  have plain : lastOfRows.Plain := by
    refine ⟨by decide, rfl, ?_⟩
    rintro (_ | ⟨_, ⟨⟩⟩)
  have reached : Selects lastOfRows.moves
      (.object [("rows", .array [.bool true, .array [.null]])]) [.null] :=
    .items (.step (.name List.mem_cons_self)
      (.step (@Leads.fromEnd _ [.bool true] [] _ rfl) (.here _)))
  obtain ⟨⟨records, decoded, only⟩, -⟩ :=
    decode_of_plain plain
      (show InputSettings.form ⟨.json, some "$.rows[-1]", false⟩ = .json from rfl) (by rw [text])
      (Json.read?_pretty (.object [("rows", .array [.bool true, .array [.null]])]))
  obtain rfl := (only _).1 reached
  exact ⟨text, plain, reached, decoded⟩

/-- Some segment has more than one pair of brackets, or the root has. -/
def Doubled (p : Spelling) : Prop := ∃ s ∈ p.parts, 2 ≤ s.brackets.length

theorem mem_brackets_of_root {b : Bracket} (h : b ∈ p.root.brackets) : b ∈ p.brackets := by
  unfold brackets parts
  cases root : p.root with
  | absent | dotted =>
    rw [root] at h
    cases h
  | indexed first more =>
    rw [root] at h
    exact List.mem_flatMap.2 ⟨_, List.mem_cons_self, h⟩

/-- Where the root has an index, an array has no member, and nothing else has items. -/
theorem recordsAt_of_indexed (indexed : p.root.brackets ≠ []) (starless : .all ∉ p.brackets)
    (v : Json) : recordsAt (reach? p.moves v) = [] ∨
      recordsAt (reach? (.name "$" :: p.moves) v) = [] := by
  obtain ⟨b, bs, brackets⟩ := List.exists_cons_of_ne_nil indexed
  obtain ⟨i, rfl⟩ : ∃ i, b = .index i := by
    cases b with
    | index i => exact ⟨i, rfl⟩
    | all =>
      have star : .all ∈ p.root.brackets := by
        rw [brackets]
        exact List.mem_cons_self
      exact absurd (mem_brackets_of_root star) starless
  rw [moves, brackets]
  cases v with
  | array items => exact .inr rfl
  | _ => exact .inl rfl

/-- Where a name or the root has several indices nothing is found. An index of the root is looked
for in a member `$`. The records are those that the path means only if there are none of either. -/
theorem decode_of_doubled_or_indexed (odd : p.Doubled ∨ p.root.brackets ≠ [])
    (starless : .all ∉ p.brackets) {settings : InputSettings} (form : settings.form = .json)
    (along : settings.recordPath = some p.text) {text : String} {document : Json}
    (read : Json.read? text = some document) :
    ∃ records meant, Records.decode settings text = .ok records ∧
      (∀ other, Selects p.moves document other ↔ other = meant) ∧
      (p.Doubled → records = []) ∧
      (¬ p.Doubled → ∀ other, Selects (.name "$" :: p.moves) document other ↔ other = records) ∧
      (records = meant ↔ records = [] ∧ meant = []) := by
  have canonical := Json.canonical_of_read? read
  have decoded := decode_eq_recordsAt form along read (isQuery_of_starless starless)
  rw [parts_text] at decoded
  by_cases doubled : p.Doubled
  · have each : ∀ s ∈ p.parts, .all ∉ s.brackets := fun s hs star =>
      starless (List.mem_flatMap.2 ⟨s, hs, star⟩)
    rw [Segment.walk_eq_none each doubled] at decoded
    refine ⟨[], _, decoded, fun other => selects_iff canonical, fun _ => rfl,
      fun single => absurd doubled single, ?_⟩
    rw [eq_comm, eq_self, true_and]
  · have indexed := odd.resolve_left doubled
    have single : ∀ s ∈ p.parts, s.brackets.length ≤ 1 := fun s hs => by
      by_contra more
      exact doubled ⟨s, hs, by omega⟩
    rw [Segment.walk_map_chars single, takeWhile_moves_parts starless,
      flatMap_moves_parts_of_indexed indexed] at decoded
    refine ⟨_, _, decoded, fun other => selects_iff canonical, fun h => absurd h doubled,
      fun _ other => selects_iff canonical, fun same => ?_,
      fun ⟨here, there⟩ => here.trans there.symm⟩
    rcases recordsAt_of_indexed indexed starless document with none | none
    · exact ⟨same.trans none, none⟩
    · exact ⟨none, same.symm.trans none⟩

/-- The path `rows[0][-1]`. -/
def lastOfFirst : Spelling where
  root := .absent
  segments := [⟨some ⟨"rows", by decide, by decide⟩,
    [.index ⟨.absent, ['0'], by decide, by decide, by decide⟩, .index .last], nofun⟩]
  nonempty := nofun
  names := by decide

/-- The last item of the first row is there, and is not found. -/
theorem decode_of_doubled_row :
    lastOfFirst.text = "rows[0][-1]" ∧ lastOfFirst.Doubled ∧ .all ∉ lastOfFirst.brackets ∧
    Selects lastOfFirst.moves (.object [("rows", .array [.array [.null]])]) [.null] ∧
    Records.decode ⟨.json, some "rows[0][-1]", false⟩
      (Json.object [("rows", .array [.array [.null]])]).pretty = .ok [] := by
  have text : lastOfFirst.text = "rows[0][-1]" := by decide
  have doubled : lastOfFirst.Doubled := ⟨_, List.mem_cons_self, by decide⟩
  have starless : .all ∉ lastOfFirst.brackets := by rintro (_ | ⟨_, _ | ⟨_, ⟨⟩⟩⟩)
  have reached : Selects lastOfFirst.moves (.object [("rows", .array [.array [.null]])]) [.null] :=
    .single (.step (.name List.mem_cons_self) (.step (@Leads.fromStart _ [] [] _ rfl)
      (.step (@Leads.fromEnd _ [] [] _ rfl) (.here _)))) fun _ array => by cases array
  obtain ⟨records, meant, decoded, -, none, -⟩ :=
    decode_of_doubled_or_indexed (.inl doubled) starless
      (show InputSettings.form ⟨.json, some "rows[0][-1]", false⟩ = .json from rfl) (by rw [text])
      (Json.read?_pretty (.object [("rows", .array [.array [.null]])]))
  obtain rfl := none doubled
  exact ⟨text, doubled, starless, reached, decoded⟩

/-- The path `$[0]`. -/
def firstOfRoot : Spelling where
  root := .indexed (.index ⟨.absent, ['0'], by decide, by decide, by decide⟩) []
  segments := []
  nonempty := nofun
  names := nofun

/-- The first item of the document is there, and is not found. -/
theorem decode_of_root_first :
    firstOfRoot.text = "$[0]" ∧ .all ∉ firstOfRoot.brackets ∧
    Json.read? (Json.array [.bool true, .null]).pretty = some (.array [.bool true, .null]) ∧
    Selects firstOfRoot.moves (.array [.bool true, .null]) [.bool true] ∧
    Records.decode ⟨.json, some "$[0]", false⟩ (Json.array [.bool true, .null]).pretty =
      .ok [] := by
  have read := Json.read?_pretty (.array [.bool true, .null])
  refine ⟨by decide, by rintro (_ | ⟨_, ⟨⟩⟩), read, ?_, ?_⟩
  · exact .single (.step (@Leads.fromStart _ [] [.null] _ rfl) (.here _)) fun _ array => by
      cases array
  · rw [decode_eq_recordsAt rfl rfl read (by decide)]
    rfl

end Spelling

end RecordPath

end JsonShape
