import JsonShape.Proofs.RecordPath.Walking

/-!
# Stars in record paths

`RecordPath.Expands moves v found`: the moves are made one after another from `v`, and those after a
star are made for every item, in order. `picks` computes what is found.

A path with a negative index is walked even if it has stars, and the walk ends at the first of them
(`Spelling.decode_of_starred`). That is what the path means only if nothing follows the star, or if
there are no items: moves go down, so what they find is smaller than the items that they start from
(`flatMap_picks_ne`).
-/

set_option autoImplicit false

namespace JsonShape

namespace RecordPath

/-! ## What a path with stars means -/

/-- Moves one after another, each star for all items of the array that is there. -/
inductive Expands : List Move → Json → List Json → Prop where
  | here (v : Json) : Expands [] v [v]
  | step {m : Move} {moves : List Move} {v w : Json} {found : List Json} :
      Leads m v w → Expands moves w found → Expands (m :: moves) v found
  | lost {m : Move} {moves : List Move} {v : Json} :
      m ≠ .all → (∀ w, ¬ Leads m v w) → Expands (m :: moves) v []
  | done {moves : List Move} : Expands (.all :: moves) (.array []) []
  | item {moves : List Move} {v : Json} {items found more : List Json} :
      Expands moves v found → Expands (.all :: moves) (.array items) more →
      Expands (.all :: moves) (.array (v :: items)) (found ++ more)
  | unlisted {moves : List Move} {v : Json} :
      (∀ items, v ≠ .array items) → Expands (.all :: moves) v []

/-- What moves find. -/
def picks : List Move → Json → List Json
  | [], v => [v]
  | .all :: moves, .array items => items.flatMap (picks moves)
  | m :: moves, v => (m.go? v).elim [] (picks moves)

section

variable {m : Move} {moves before : List Move} {v w : Json} {items : List Json}

theorem picks_cons (h : m ≠ .all) : picks (m :: moves) v = (m.go? v).elim [] (picks moves) := by
  cases m <;> first | rfl | exact absurd rfl h

theorem picks_all_of_not_array (h : ∀ items, v ≠ .array items) : picks (.all :: moves) v = [] := by
  cases v with
  | array items => exact absurd rfl (h items)
  | _ => rfl

theorem expands_picks (h : v.Canonical) : Expands moves v (picks moves v) := by
  induction moves generalizing v with
  | nil => exact .here v
  | cons m moves ih =>
    by_cases star : m = .all
    · subst star
      by_cases array : ∃ items, v = .array items
      · obtain ⟨items, rfl⟩ := array
        have each : ∀ w ∈ items, Expands moves w (picks moves w) := fun w hw => ih (h.items hw)
        clear h
        induction items with
        | nil => exact .done
        | cons w items rest =>
          rw [List.forall_mem_cons] at each
          exact .item each.1 (rest each.2)
      · rw [picks_all_of_not_array (not_exists.1 array)]
        exact .unlisted (not_exists.1 array)
    · rw [picks_cons star]
      cases go : m.go? v with
      | none => exact .lost star fun w lead => by cases go.symm.trans ((go?_eq_some_iff h).2 lead)
      | some w => exact .step ((go?_eq_some_iff h).1 go) (ih (canonical_of_go? h go))

/-- There is one answer. -/
theorem expands_iff (h : v.Canonical) {found : List Json} :
    Expands moves v found ↔ found = picks moves v := by
  refine ⟨fun expands => ?_, fun eq => eq ▸ expands_picks h⟩
  induction expands with
  | here => rfl
  | @step m moves v w found lead _ ih =>
    have go := (go?_eq_some_iff h).2 lead
    have other : m ≠ .all := by
      rintro rfl
      cases lead
    rw [picks_cons other, go, Option.elim_some, ih (canonical_of_go? h go)]
  | @lost m moves v other nowhere =>
    have go : m.go? v = none := Option.eq_none_iff_forall_ne_some.2 fun w hw =>
      nowhere w ((go?_eq_some_iff h).1 hw)
    rw [picks_cons other, go, Option.elim_none]
  | done => rfl
  | item _ _ first rest =>
    rw [first (h.items List.mem_cons_self), rest h.2]
    rfl
  | unlisted other => exact (picks_all_of_not_array other).symm

/-- Moves to one part each lead to the place from where the others are made. -/
theorem picks_append (single : .all ∉ before) :
    picks (before ++ moves) v = (reach? before v).elim [] (picks moves) := by
  induction before generalizing v with
  | nil => rfl
  | cons m before ih =>
    rw [List.mem_cons, not_or] at single
    rw [List.cons_append, picks_cons (Ne.symm single.1), reach?]
    cases m.go? v with
    | none => rfl
    | some w => exact ih single.2

/-! ## Sizes -/

theorem sizeOf_lt_of_item? {i : Int} (h : v.item? i = some w) : sizeOf w < sizeOf v := by
  cases v with
  | array items =>
    rw [Json.item?_array] at h
    split at h
    · have := List.sizeOf_lt_of_mem (List.mem_of_getElem? h)
      rw [Json.array.sizeOf_spec]
      omega
    · cases h
  | _ => cases h

/-- Moves go down. -/
theorem sizeOf_lt_of_go? (h : m.go? v = some w) : sizeOf w < sizeOf v := by
  cases m with
  | all => cases h
  | index i => exact sizeOf_lt_of_item? h
  | name key =>
    cases v with
    | object members =>
      have : sizeOf w < sizeOf members := Entries.sizeOf_lt_of_mem (Entries.mem_of_get? h)
      rw [Json.object.sizeOf_spec]
      omega
    | _ => cases h

/-- How large values are together. -/
noncomputable def weight : List Json → Nat
  | [] => 0
  | v :: vs => sizeOf v + weight vs

theorem weight_append (vs ws : List Json) : weight (vs ++ ws) = weight vs + weight ws := by
  induction vs with
  | nil => rw [List.nil_append, weight, Nat.zero_add]
  | cons v vs ih => rw [List.cons_append, weight, ih, weight, Nat.add_assoc]

theorem weight_flatMap_le {f : Json → List Json} (h : ∀ v, weight (f v) ≤ sizeOf v)
    (items : List Json) : weight (items.flatMap f) ≤ weight items := by
  induction items with
  | nil => exact Nat.le_refl _
  | cons v items ih =>
    rw [List.flatMap_cons, weight_append, weight]
    exact Nat.add_le_add (h v) ih

theorem weight_flatMap_lt {f : Json → List Json} (h : ∀ v, weight (f v) < sizeOf v)
    (filled : items ≠ []) : weight (items.flatMap f) < weight items := by
  obtain ⟨v, items, rfl⟩ := List.exists_cons_of_ne_nil filled
  rw [List.flatMap_cons, weight_append, weight]
  exact Nat.add_lt_add_of_lt_of_le (h v) (weight_flatMap_le (fun w => (h w).le) items)

theorem weight_lt_sizeOf_array (items : List Json) : weight items < sizeOf (Json.array items) := by
  rw [Json.array.sizeOf_spec]
  induction items with
  | nil => simp [weight]
  | cons v items ih =>
    rw [weight, List.cons.sizeOf_spec]
    omega

/-- What is found is smaller than what the moves start from, if there is a move. -/
theorem weight_picks (moves : List Move) (v : Json) :
    weight (picks moves v) ≤ sizeOf v ∧ (moves ≠ [] → weight (picks moves v) < sizeOf v) := by
  induction moves generalizing v with
  | nil => exact ⟨Nat.le_refl _, fun some => absurd rfl some⟩
  | cons m moves ih =>
    have nothing : weight [] < sizeOf v := by cases v <;> simp [weight]
    suffices smaller : weight (picks (m :: moves) v) < sizeOf v from ⟨smaller.le, fun _ => smaller⟩
    by_cases star : m = .all
    · subst star
      by_cases array : ∃ items, v = .array items
      · obtain ⟨items, rfl⟩ := array
        calc weight (picks (.all :: moves) (.array items))
          _ ≤ weight items := weight_flatMap_le (fun w => (ih w).1) items
          _ < sizeOf (Json.array items) := weight_lt_sizeOf_array items
      · rwa [picks_all_of_not_array (not_exists.1 array)]
    · rw [picks_cons star]
      cases go : m.go? v with
      | none => exact nothing
      | some w => exact (ih w).1.trans_lt (sizeOf_lt_of_go? go)

/-- Moves from all items do not find the items again. -/
theorem flatMap_picks_ne (some : moves ≠ []) (filled : items ≠ []) :
    items.flatMap (picks moves) ≠ items := by
  intro same
  have smaller : weight (items.flatMap (picks moves)) < weight items :=
    weight_flatMap_lt (fun w => (weight_picks moves w).2 some) filled
  rw [same] at smaller
  omega

/-- The records at a place are what a star finds there and moves find after it. -/
theorem recordsAt_eq_picks_iff : recordsAt (some v) = picks (.all :: moves) v ↔
    ∃ items, v = .array items ∧ (moves = [] ∨ items = []) := by
  cases v with
  | array items =>
    simp only [Json.array.injEq, exists_eq_left']
    constructor
    · intro same
      by_contra other
      rw [not_or] at other
      exact flatMap_picks_ne other.1 other.2 same.symm
    · rintro (rfl | rfl)
      · exact (List.flatMap_singleton' items).symm
      · rfl
  | _ => simp [recordsAt, picks, Move.go?]

end

/-! ## Paths that are walked -/

namespace Spelling

variable {p : Spelling}

/-- The walk of a path with a negative index ends at the first star, with the items there, or with
what is there if it is no array. These are the records that the path means if nothing is reached, or
if what is reached is an array and nothing follows the star, or the array is empty. -/
theorem decode_of_starred (single : ∀ s ∈ p.segments, s.brackets.length ≤ 1)
    (unindexed : p.root.brackets = []) {i : Index} (indexed : .index i ∈ p.brackets)
    (negative : i.value < 0) {before after : List Move} (cut : p.moves = before ++ .all :: after)
    (first : .all ∉ before) {settings : InputSettings} (form : settings.form = .json)
    (along : settings.recordPath = some p.text) {text : String} {document : Json}
    (read : Json.read? text = some document) :
    ∃ records meant, Records.decode settings text = .ok records ∧
      (∀ other, Expands p.moves document other ↔ other = meant) ∧
      (∀ other, Selects before document other ↔ other = records) ∧
      (records = meant ↔ ∀ w, Reaches before document w →
        ∃ items, w = .array items ∧ (after = [] ∨ items = [])) := by
  have canonical := Json.canonical_of_read? read
  have walked : (p.parts.flatMap Segment.moves).takeWhile (· ≠ .all) = before := by
    have others : ∀ m ∈ before, decide (m ≠ .all) = true := fun m hm =>
      decide_eq_true fun (star : m = .all) => first (star ▸ hm)
    rw [flatMap_moves_parts unindexed, cut, List.takeWhile_append_of_pos others,
      List.takeWhile_cons_of_neg (by simp), List.append_nil]
  have decoded := decode_eq_recordsAt form along read (isQuery_of_negative indexed negative)
  rw [← parts_eq_segments unindexed] at single
  rw [parts_text, Segment.walk_map_chars single, walked] at decoded
  refine ⟨_, _, decoded, fun other => expands_iff canonical, fun other => selects_iff canonical, ?_⟩
  rw [cut, picks_append first]
  simp only [← reach?_eq_some_iff canonical]
  cases reach? before document with
  | none => exact ⟨fun _ _ => nofun, fun _ => rfl⟩
  | some w =>
    simp only [Option.elim_some, Option.some.injEq, forall_eq']
    exact recordsAt_eq_picks_iff

/-- The path `a[-1].b[*]`. -/
def itemsOfLast : Spelling where
  root := .absent
  segments := [⟨some ⟨"a", by decide, by decide⟩, [.index .last], nofun⟩,
    ⟨some ⟨"b", by decide, by decide⟩, [.all], nofun⟩]
  nonempty := nofun
  names := by decide

/-- Nothing follows the star, so its items are the records. -/
theorem decode_of_starred_last :
    itemsOfLast.text = "a[-1].b[*]" ∧
    Expands itemsOfLast.moves
      (.object [("a", .array [.object [("b", .array [.bool true, .null])]])]) [.bool true, .null] ∧
    Records.decode ⟨.json, some "a[-1].b[*]", false⟩
      (Json.object [("a", .array [.object [("b", .array [.bool true, .null])]])]).pretty =
        .ok [.bool true, .null] := by
  have text : itemsOfLast.text = "a[-1].b[*]" := by decide
  have read := Json.read?_pretty
    (.object [("a", .array [.object [("b", .array [.bool true, .null])]])])
  have canonical := Json.canonical_of_read? read
  have expands : Expands itemsOfLast.moves
      (.object [("a", .array [.object [("b", .array [.bool true, .null])]])]) [.bool true, .null] :=
    (expands_iff canonical).2 rfl
  obtain ⟨records, meant, decoded, meaning, -, same⟩ :=
    decode_of_starred (by decide) rfl List.mem_cons_self (by decide)
      (show itemsOfLast.moves = [.name "a", .index (-1), .name "b"] ++ .all :: [] from rfl)
      (by decide) (show InputSettings.form ⟨.json, some "a[-1].b[*]", false⟩ = .json from rfl)
      (by rw [text]) read
  obtain rfl := (meaning _).1 expands
  obtain rfl : records = [.bool true, .null] := same.2 fun w reach => by
    cases (reach?_eq_some_iff canonical).2 reach
    exact ⟨_, rfl, .inl rfl⟩
  exact ⟨text, expands, decoded⟩

/-- The path `a[*].b[-1]`. -/
def lastOfItems : Spelling where
  root := .absent
  segments := [⟨some ⟨"a", by decide, by decide⟩, [.all], nofun⟩,
    ⟨some ⟨"b", by decide, by decide⟩, [.index .last], nofun⟩]
  nonempty := nofun
  names := by decide

/-- What follows the star is not done: the record is the item that the star has found. -/
theorem decode_of_starred_first :
    lastOfItems.text = "a[*].b[-1]" ∧
    Json.read? (Json.object [("a", .array [.object [("b", .array [.bool true])]])]).pretty =
      some (.object [("a", .array [.object [("b", .array [.bool true])]])]) ∧
    Expands lastOfItems.moves
      (.object [("a", .array [.object [("b", .array [.bool true])]])]) [.bool true] ∧
    Records.decode ⟨.json, some "a[*].b[-1]", false⟩
      (Json.object [("a", .array [.object [("b", .array [.bool true])]])]).pretty =
        .ok [.object [("b", .array [.bool true])]] := by
  have read := Json.read?_pretty (.object [("a", .array [.object [("b", .array [.bool true])]])])
  refine ⟨by decide, read, (expands_iff (Json.canonical_of_read? read)).2 rfl, ?_⟩
  rw [decode_eq_recordsAt rfl rfl read (by decide)]
  rfl

end Spelling

end RecordPath

end JsonShape
