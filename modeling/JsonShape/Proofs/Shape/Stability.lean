import Mathlib.Data.String.Basic
import JsonShape.Proofs.Shape.Join

/-!
# Values that change nothing

A shape takes in a value and stays as it is exactly if the shape of the value alone is below it
(`absorb_eq_self_iff`). It stays the same tree then, with its alternatives in their order: that shapes
below one another are alike would not be enough for this, so the proof goes through what grows in the
slot of the value.

What a shape is above, it stays above when more values come (`below_of_below_absorbAll`). Hence a
value that has been taken in once changes nothing from then on, whatever has come since
(`absorb_absorbAll_of_mem`), and values may be repeated (`absorbAll_append_of_subset`).
-/

set_option autoImplicit false

namespace JsonShape

/-- An interval that contains a number is not changed by it; of equal ends the old ones stay. -/
theorem Interval.extend_eq_self {i : Interval} {x : Double} (h : i.contains x = true) :
    i.extend x = i := by
  rw [contains, Bool.and_eq_true] at h
  obtain ⟨p, q, hp, hq, hpq⟩ := Double.le_iff.1 h.1
  obtain ⟨q', r, hq', hr, hqr⟩ := Double.le_iff.1 h.2
  have lo : i.lo.min x = i.lo := by
    rw [Double.min_eq_ite (Double.isNaN_of_position hp) (Double.isNaN_of_position hq), if_pos h.1]
  have hi : i.hi.max x = i.hi := by
    rw [Double.max_eq_ite (Double.isNaN_of_position hr) (Double.isNaN_of_position hq), if_pos h.2]
  rw [extend, lo, hi]

namespace Shape

/-! ## What does not grow -/

theorem growNumber_eq_self (n : Number) {p : Shape} (hp : p.slot? = some .number)
    (h : Below (growNumber n none) p) : growNumber n (some p) = p := by
  have same : ∀ {range : Interval}, (Interval.single n.toDouble).inside range = true →
      range.extend n.toDouble = range := by
    intro range inside
    rw [Interval.single_inside n.isFinite_toDouble] at inside
    exact Interval.extend_eq_self inside
  cases p <;> cases hp
  case int range =>
    by_cases whole : n.isIntegral = true
    · simp only [growNumber, whole, if_true, Below] at h ⊢
      rw [same h]
    · simp [growNumber, whole, Below] at h
  case float range =>
    have inside : (Interval.single n.toDouble).inside range = true := by
      by_cases whole : n.isIntegral = true <;> simpa [growNumber, whole, Below] using h
    rw [growNumber, same inside]

theorem growString_eq_self (format : Option TextFormat) {p : Shape} (hp : p.slot? = some .string)
    (h : Below (growString format none) p) : growString format (some p) = p := by
  cases p <;> cases hp
  next known =>
    simp only [growString, Below] at h ⊢
    rcases h with rfl | rfl
    · rw [if_pos rfl]
    · split <;> rfl

theorem absorbItems_eq_self (d : Detectors) {items : List Json} {t : Shape}
    (each : ∀ v ∈ items, absorb d v t = t) : absorbItems d items t = t := by
  induction items with
  | nil => rfl
  | cons v rest ih =>
    rw [List.forall_mem_cons] at each
    rw [absorbItems, each.1, ih each.2]

/-- Fields do not change if the object has all required keys and none of its values changes what is
known about its key. -/
theorem takeIn_eq_self (d : Detectors) {members : List (String × Json)}
    (ordered : Entries.Ordered members) {f : Fields Shape} (hf : f.Proper)
    (required : ∀ key, f.isRequired key = true → Entries.has key members = true)
    (each : ∀ key v, Entries.get? key members = some v →
      ∃ t, f.get? key = some t ∧ absorb d v t = t) :
    takeIn d members (some f) = f := by
  have proper : ∀ g ∈ some f, g.Proper := fun g hg => Option.some.inj hg ▸ hf
  refine Fields.ext_of_proper (proper_takeIn d ordered proper) hf (fun key => ?_) fun key => ?_
  · rw [get?_takeIn d ordered proper, known?, Option.bind_some]
    cases hv : Entries.get? key members with
    | none => rfl
    | some v =>
      obtain ⟨t, ht, same⟩ := each key v hv
      show some (absorb d v ((f.get? key).getD unknown)) = f.get? key
      rw [ht, Option.getD_some, same]
  · rw [isRequired_takeIn, Option.all_some]
    cases hr : f.isRequired key with
    | false => rw [Bool.and_false]
    | true => rw [Bool.and_true, required key hr]

theorem growFirst_eq_self {slot : Slot} {f : Option Shape → Shape} {ts : List Shape} {p : Shape}
    (hp : partOf? slot ts = some p) (h : f (some p) = p) : growFirst slot f ts = ts := by
  induction ts with
  | nil => cases hp
  | cons t ts ih =>
    rw [growFirst]
    by_cases ht : t.slot? = some slot
    · simp only [partOf?, List.find?_cons, ht, decide_true, Option.some.injEq] at hp
      rw [if_pos ht, hp, h]
    · simp only [partOf?, List.find?_cons, ht, decide_false] at hp
      rw [if_neg ht, ih hp]

/-! ## Values -/

section
variable (d : Detectors) {t : Shape}

/-- A value that does not change the shape of its slot does not change the shape. -/
theorem absorb_eq_self_of_grow {v : Json} {slot : Slot} (hs : v.slot? = some slot) (ht : t.Sound)
    {p : Shape} (hp : t.part? slot = some p) (h : grow d v (some p) = p) : absorb d v t = t := by
  have slots := (parts_alternatives t ht).slots
  calc absorb d v t
      = absorb d v (rebuild t.isNullable t.alternatives) := by rw [rebuild_alternatives ht]
    _ = rebuild t.isNullable (growFirst slot (grow d v) t.alternatives) :=
        absorb_rebuild d hs _ slots
    _ = rebuild t.isNullable t.alternatives := by rw [growFirst_eq_self hp h]
    _ = t := rebuild_alternatives ht

/-- If the shape of a value alone is below a shape, the latter knows something about the slot of the
value that what the value brings there is below. -/
theorem exists_part?_of_below {v : Json} {slot : Slot} (hs : v.slot? = some slot) (hv : v.Canonical)
    (ht : t.WellFormed) (h : Below (absorb d v unknown) t) :
    ∃ p, t.part? slot = some p ∧ p.slot? = some slot ∧ p.WellFormed ∧ Below (grow d v none) p := by
  have alone := (wellFormed_absorb d v hv wellFormed_unknown).sound
  obtain ⟨p, hp, below⟩ :=
    ((below_iff_parts alone ht.sound).1 h).2 slot _ (part?_absorb_self d hs unknown)
  exact ⟨p, hp, slot?_of_partOf? hp, ht.part? hp, below⟩

theorem absorb_eq_self_of_below {v : Json} (hv : v.Canonical) (ht : t.WellFormed)
    (h : Below (absorb d v unknown) t) : absorb d v t = t := by
  induction v using Json.induct generalizing t with
  | null =>
    have null := isNullable_of_below h (isNullable_absorb_null d unknown)
    rw [absorb]
    cases t <;> cases null
    rfl
  | bool b =>
    obtain ⟨p, hp, hps, -, -⟩ := exists_part?_of_below d rfl hv ht h
    refine absorb_eq_self_of_grow d rfl ht.sound hp ?_
    cases p <;> cases hps
    rfl
  | number n =>
    obtain ⟨p, hp, hps, -, below⟩ := exists_part?_of_below d rfl hv ht h
    exact absorb_eq_self_of_grow d rfl ht.sound hp (growNumber_eq_self n hps below)
  | string s =>
    obtain ⟨p, hp, hps, -, below⟩ := exists_part?_of_below d rfl hv ht h
    exact absorb_eq_self_of_grow d rfl ht.sound hp (growString_eq_self _ hps below)
  | array items ih =>
    obtain ⟨p, hp, hps, hpw, below⟩ := exists_part?_of_below d rfl hv ht h
    refine absorb_eq_self_of_grow d rfl ht.sound hp ?_
    cases p <;> cases hps
    next s =>
      have hs := wellFormed_array.1 hpw
      have canonical := Json.canonicalItems_iff.1 hv
      -- items below `s` one by one, as all of them are together
      have joined := below_absorbItems_iff d (u := s) canonical
        (fun v hm _ ht => below_absorb_iff d (canonical v hm) ht hs) wellFormed_unknown
      rw [grow_array, below_array_iff] at below
      rw [grow_array]
      exact congrArg array
        (absorbItems_eq_self d fun v hm => ih v hm (canonical v hm) hs ((joined.1 below).2 v hm))
  | object members ih =>
    obtain ⟨p, hp, hps, hpw, below⟩ := exists_part?_of_below d rfl hv ht h
    refine absorb_eq_self_of_grow d rfl ht.sound hp ?_
    cases p <;> cases hps
    next f =>
      obtain ⟨hf, known⟩ := wellFormed_object.1 hpw
      rw [grow_object, below_object_iff] at below
      rw [grow_object]
      refine congrArg object (takeIn_eq_self d hv.1 hf (fun key hr => ?_) fun key v hv' => ?_)
      · have := below.2 key hr
        rw [isRequired_takeIn, Bool.and_eq_true] at this
        exact this.1
      · obtain ⟨u, hu, below⟩ := below.1 key (absorb d v unknown) (by
          rw [get?_takeIn d hv.1 (by simp), hv']
          rfl)
        have hm := Entries.mem_of_get? hv'
        exact ⟨u, hu, ih _ hm (hv.members hm) (known key u hu).2 below⟩

/-- A value changes nothing exactly if the shape of the value alone is below what is known. -/
theorem absorb_eq_self_iff {v : Json} (hv : v.Canonical) (ht : t.WellFormed) :
    absorb d v t = t ↔ Below (absorb d v unknown) t := by
  refine ⟨fun h => ?_, absorb_eq_self_of_below d hv ht⟩
  have below : Below (absorb d v t) t := by rw [h]; exact below_refl ht
  exact ((below_absorb_iff d hv ht ht).1 below).2

/-! ## Runs -/

/-- What a shape is below before a run, it is below afterwards. -/
theorem below_of_below_absorbAll {vs : List Json} (hv : ∀ v ∈ vs, v.Canonical) (ht : t.WellFormed)
    {u : Shape} (hu : u.WellFormed) (h : Below (absorbAll d vs t) u) : Below t u := by
  induction vs generalizing t with
  | nil => exact h
  | cons v vs ih =>
    rw [List.forall_mem_cons] at hv
    exact ((below_absorb_iff d hv.1 ht hu).1 (ih hv.2 (wellFormed_absorb d v hv.1 ht) h)).1

/-- A value of a run changes nothing after the run. -/
theorem absorb_absorbAll_of_mem {vs : List Json} (hv : ∀ v ∈ vs, v.Canonical) (ht : t.WellFormed)
    {v : Json} (hm : v ∈ vs) : absorb d v (absorbAll d vs t) = absorbAll d vs t := by
  obtain ⟨before, after, rfl⟩ := List.append_of_mem hm
  have canonical : (∀ w ∈ before, w.Canonical) ∧ v.Canonical ∧ ∀ w ∈ after, w.Canonical := by
    simpa [or_imp, forall_and] using hv
  have start := wellFormed_absorbAll d canonical.1 ht
  have taken := wellFormed_absorb d v canonical.2.1 start
  have whole : absorbAll d (before ++ v :: after) t =
      absorbAll d after (absorb d v (absorbAll d before t)) := absorbAll_append d _ _ t
  have final := wellFormed_absorbAll d canonical.2.2 taken
  rw [whole, absorb_eq_self_iff d canonical.2.1 final]
  have below := below_of_below_absorbAll d canonical.2.2 taken final (below_refl final)
  exact ((below_absorb_iff d canonical.2.1 start final).1 below).2

/-- Values of a run can be repeated after it. -/
theorem absorbAll_append_of_subset {vs ws : List Json} (hv : ∀ v ∈ vs, v.Canonical)
    (ht : t.WellFormed) (hw : ∀ w ∈ ws, w ∈ vs) :
    absorbAll d (vs ++ ws) t = absorbAll d vs t := by
  rw [absorbAll_append, ← absorbItems_eq_absorbAll d ws]
  exact absorbItems_eq_self d fun w hm => absorb_absorbAll_of_mem d hv ht (hw w hm)

end

/-- A value that has been taken in once changes nothing any more, whatever has come since: neither
what is known nor the order of alternatives. -/
theorem absorb_absorbAll_absorb (d : Detectors) {t : Shape} (passes : t.check = none)
    (canonical : t.Canonical) {v : Json} (hv : v.Canonical) {ws : List Json}
    (hw : ∀ w ∈ ws, w.Canonical) :
    absorb d v (absorbAll d ws (absorb d v t)) = absorbAll d ws (absorb d v t) := by
  have all : ∀ w ∈ v :: ws, w.Canonical := List.forall_mem_cons.2 ⟨hv, hw⟩
  have wellFormed : t.WellFormed := ⟨canonical, sound_of_check passes⟩
  exact absorb_absorbAll_of_mem d all wellFormed List.mem_cons_self

/-- An array comes to a shape that has alternatives, then values that widen its items and add an
alternative; the array changes nothing any more. -/
theorem absorb_absorbAll_absorb_array :
    let t := anyOf [boolean, array unknown]
    let v := Json.array [.bool true]
    let ws := [Json.array [.string "", .null], .object [("a", .null)]]
    t.check = none ∧ t.Canonical ∧ v.Canonical ∧ (∀ w ∈ ws, w.Canonical) ∧
      absorb .none v (absorbAll .none ws (absorb .none v t)) =
        anyOf [boolean, array (nullable (anyOf [boolean, string none])),
          object ⟨[("a", nullable unknown)], []⟩] := by
  intro t v ws
  have passes : t.check = none := rfl
  have canonical : t.Canonical := by simp [t, Shape.Canonical, CanonicalAlternatives]
  have value : v.Canonical := ⟨trivial, trivial⟩
  have later : ∀ w ∈ ws, w.Canonical := by
    simp [ws, Json.Canonical, Json.CanonicalItems, Json.CanonicalMembers, Entries.Ordered,
      Entries.keys]
  refine ⟨passes, canonical, value, later, ?_⟩
  rw [absorb_absorbAll_absorb .none passes canonical value later]
  rfl

end Shape

end JsonShape
