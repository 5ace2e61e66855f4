import Mathlib.Data.String.Basic
import JsonShape.Proofs.Json.Canonical
import JsonShape.Proofs.Shape.Codec

/-!
# Shapes read from members in any order

What is read does not depend on the order of members: a shape is read from a value without repeated
keys just as it is from that value put in order (`ofJson?_canonical`). Fields are looked up by name,
and properties are put in order when they are read. The induction is on the value, and it is about the
whole reading of every part (`reading_canonical`), as the form that decides what a part is read as
may stand behind it.

A shape with its keys in order is written without a repeated key (`distinct_toJson`).
-/

set_option autoImplicit false

namespace JsonShape

/-! ## Fields -/

namespace Entries

variable {α β : Type} {key : String} {es fs : Entries α}

theorem atMostOne?_of_perm (h : es.Perm fs) : atMostOne? key es = atMostOne? key fs := by
  have found := h.filter fun e => e.1 == key
  unfold atMostOne?
  generalize es.filter (fun e => e.1 == key) = some, fs.filter (fun e => e.1 == key) = same at found
  cases some with
  | nil => rw [List.nil_perm.1 found]
  | cons e more =>
    cases more with
    | nil => rw [List.singleton_perm.1 found]
    | cons e' more =>
      match same, found.length_eq with
      | _ :: _ :: _, _ => rfl

theorem only?_of_perm (h : es.Perm fs) : only? key es = only? key fs := by
  rw [only?, only?, atMostOne?_of_perm h]

theorem atMostOne?_mapValues (change : α → β) (es : Entries α) :
    atMostOne? key (mapValues change es) = (atMostOne? key es).map (Option.map change) := by
  unfold atMostOne?
  rw [← mapValues_filter_key change fun k => k == key]
  generalize es.filter (fun e => e.1 == key) = same
  rcases same with - | ⟨e, - | ⟨e', more⟩⟩ <;> rfl

theorem only?_mapValues (change : α → β) (es : Entries α) :
    only? key (mapValues change es) = (only? key es).map change := by
  rw [only?, only?, atMostOne?_mapValues]
  rcases atMostOne? key es with - | - | value <;> rfl

theorem mem_of_atMostOne? {value : α} (h : atMostOne? key es = some (some value)) :
    (key, value) ∈ es := by
  have found : ∀ e ∈ es.filter (fun e => e.1 == key), e ∈ es ∧ e.1 = key := by
    intro e he
    simpa using he
  unfold atMostOne? at h
  split at h
  · cases h
  · next e v heq =>
    cases h
    obtain ⟨he, rfl⟩ := found (e, value) (by rw [heq]; exact List.mem_cons_self)
    exact he
  · cases h

theorem mem_of_only? {value : α} (h : only? key es = some value) : (key, value) ∈ es := by
  rw [only?, Option.join_eq_some_iff] at h
  exact mem_of_atMostOne? h

end Entries

/-! ## Leaves -/

namespace Json

variable {members : List (String × Json)} {key : String}

theorem only?_canonicalMembers (nodup : (Entries.keys members).Nodup) :
    Entries.only? key (Entries.ofList (canonicalMembers members)) =
      (Entries.only? key members).map canonical := by
  rw [Entries.only?_of_perm (ofList_canonicalMembers_perm nodup), canonicalMembers_eq_mapValues,
    Entries.only?_mapValues]

theorem number?_canonical (v : Json) : v.canonical.number? = v.number? := by
  cases v <;> rfl

theorem nat?_canonical (v : Json) : v.canonical.nat? = v.nat? := by
  rw [nat?, nat?, number?_canonical]

theorem tag?_canonical {v : Json} (h : v.Distinct) : v.canonical.tag? = v.tag? := by
  -- two members or more, of whatever order, are not the name of anything
  have several (e e' : String × Json) (es : List (String × Json)) :
      tag? (object (e :: e' :: es)) = none := by
    rcases e with ⟨k, - | _ | _ | _ | _ | - | _⟩ <;> rfl
  cases v with
  | object members =>
    rcases members with - | ⟨⟨k, v⟩, - | ⟨e', es⟩⟩
    · rfl
    · cases v with
      | object ms =>
        cases ms with
        | nil => rfl
        | cons m ms =>
          have length := (ofList_canonicalMembers_perm h.2.1.1).length_eq
          show tag? (object [(k, object (Entries.ofList (canonicalMembers (m :: ms))))]) = none
          cases sorted : Entries.ofList (canonicalMembers (m :: ms)) with
          | nil =>
            rw [sorted] at length
            cases length
          | cons d ds => rfl
      | null | bool _ | number _ | string _ | array _ => rfl
    · have length := (ofList_canonicalMembers_perm h.1).length_eq
      rw [canonical, several]
      rcases sorted : Entries.ofList (canonicalMembers ((k, v) :: e' :: es)) with
        - | ⟨d, - | ⟨d', ds⟩⟩
      · rw [sorted] at length
        cases length
      · rw [sorted] at length
        cases length
      · exact several d d' ds
  | null | bool _ | number _ | string _ | array _ => rfl

end Json

theorem Interval.ofJson?_canonical {v : Json} (h : v.Distinct) :
    Interval.ofJson? v.canonical = Interval.ofJson? v := by
  cases v with
  | object members =>
    simp only [Json.canonical, ofJson?, Json.only?_canonicalMembers h.1, Option.bind_map,
      Function.comp_def, Json.number?_canonical]
  | array items =>
    rcases items with - | ⟨lo, - | ⟨hi, - | ⟨_, _⟩⟩⟩
    · rfl
    · rfl
    · simp only [Json.canonical, Json.canonicalItems, ofJson?, Json.number?_canonical]
    · rfl
  | null | bool _ | number _ | string _ => rfl

theorem Form.named?_canonical (v : Json) : named? v.canonical = named? v := by
  cases v <;> rfl

theorem Form.ofJson?_canonical (v : Json) : ofJson? v.canonical = ofJson? v := by
  rw [ofJson?, ofJson?, Json.nat?_canonical, named?_canonical]

theorem TextFormat.optional?_canonical {v : Option Json} (h : ∀ w ∈ v, w.Distinct) :
    optional? ofJson? (v.map Json.canonical) = optional? ofJson? v := by
  cases v with
  | none => rfl
  | some v =>
    have same : ofJson? v.canonical = ofJson? v := by
      rw [ofJson?, ofJson?, Json.tag?_canonical (h v rfl)]
    cases v with
    | null | bool _ | number _ | string _ => rfl
    | array _ | object _ =>
      simp only [Option.map_some, Json.canonical, optional?] at same ⊢
      rw [same]

namespace Shape

/-! ## Readings -/

/-- The reading with its value put in order. -/
def Reading.canonical (r : Reading) : Reading := { r with json := r.json.canonical }

theorem memberReadings_eq_mapValues (members : List (String × Json)) :
    memberReadings members = Entries.mapValues reading members := by
  induction members with
  | nil => rfl
  | cons m members ih =>
    rw [memberReadings, ih]
    rfl

theorem readings_eq_map (items : List Json) : readings items = items.map reading := by
  induction items with
  | nil => rfl
  | cons v items ih => rw [readings, ih, List.map_cons]

theorem distinct_memberReadings {members : List (String × Json)}
    (h : Json.DistinctMembers members) : ∀ e ∈ memberReadings members, e.2.json.Distinct := by
  intro e he
  rw [memberReadings_eq_mapValues] at he
  obtain ⟨m, hm, rfl⟩ := List.mem_map.1 he
  rw [json_reading]
  exact Json.distinctMembers_iff.1 h m hm

theorem distinct_readings {items : List Json} (h : Json.DistinctItems items) :
    ∀ r ∈ readings items, r.json.Distinct := by
  intro r hr
  rw [readings_eq_map] at hr
  obtain ⟨v, hv, rfl⟩ := List.mem_map.1 hr
  rw [json_reading]
  exact Json.distinctItems_iff.1 h v hv

/-! ## Fields of a form -/

variable {form? : Json → Option Form} {fields fields' : Entries Reading}

theorem ofFields?_of_perm (h : fields.Perm fields') (form : Form) :
    ofFields? fields form = ofFields? fields' form := by
  cases form <;>
    simp only [ofFields?, properties?, Entries.only?_of_perm h, Entries.atMostOne?_of_perm h]

theorem ofMembers?_of_perm (h : fields.Perm fields') :
    ofMembers? form? fields = ofMembers? form? fields' := by
  simp only [ofMembers?, Entries.only?_of_perm h, ofFields?_of_perm h]

/-- A field that is read alike from a value put in order. -/
theorem only?_bind_canonical {α : Type} {read : Reading → Option α}
    (same : ∀ r : Reading, r.json.Distinct → read r.canonical = read r)
    (h : ∀ e ∈ fields, e.2.json.Distinct) (key : String) :
    (Entries.only? key (Entries.mapValues Reading.canonical fields)).bind read =
      (Entries.only? key fields).bind read := by
  rw [Entries.only?_mapValues]
  cases found : Entries.only? key fields with
  | none => rfl
  | some r => exact same r (h _ (Entries.mem_of_only? found))

theorem properties?_canonical (name : String) :
    properties? name (Entries.mapValues Reading.canonical fields) = properties? name fields := by
  rw [properties?, properties?, Entries.atMostOne?_mapValues]
  rcases Entries.atMostOne? name fields with - | - | r <;> rfl

theorem ofFields?_canonical (h : ∀ e ∈ fields, e.2.json.Distinct) (form : Form) :
    ofFields? (Entries.mapValues Reading.canonical fields) form = ofFields? fields form := by
  have range (make : Interval → Shape) (r : Reading) (hr : r.json.Distinct) :
      (Interval.ofJson? r.canonical.json).map make = (Interval.ofJson? r.json).map make := by
    rw [Reading.canonical, Interval.ofJson?_canonical hr]
  cases form with
  | unknown | boolean => rfl
  | int => exact only?_bind_canonical (range int) h _
  | float => exact only?_bind_canonical (range float) h _
  | string =>
    rw [ofFields?, ofFields?, Entries.atMostOne?_mapValues]
    cases found : Entries.atMostOne? "format" fields with
    | none => rfl
    | some field =>
      have distinct : ∀ w ∈ field.map Reading.json, w.Distinct := by
        intro w hw
        obtain ⟨r, rfl, rfl⟩ := Option.map_eq_some_iff.1 hw
        exact h _ (Entries.mem_of_atMostOne? found)
      have same := TextFormat.optional?_canonical distinct
      rw [Option.map_map] at same
      simp only [Option.map_some, bind, Option.bind_some, Option.map_map]
      rw [← same]
      rfl
  | array | nullable | any => exact only?_bind_canonical (fun _ _ => rfl) h _
  | object => simp only [ofFields?, properties?_canonical]

theorem ofMembers?_canonical (told : ∀ v : Json, form? v.canonical = form? v)
    (h : ∀ e ∈ fields, e.2.json.Distinct) :
    ofMembers? form? (Entries.mapValues Reading.canonical fields) = ofMembers? form? fields := by
  simp only [ofMembers?, ofFields?_canonical h]
  refine only?_bind_canonical (fun r _ => ?_) h _
  rw [Reading.canonical, told]

theorem ofItems?_canonical (told : ∀ v : Json, form? v.canonical = form? v) {rs : List Reading}
    (h : ∀ r ∈ rs, r.json.Distinct) :
    ofItems? form? (rs.map Reading.canonical) = ofItems? form? rs := by
  cases rs with
  | nil => rfl
  | cons type fields =>
    have zipped (form : Form) :
        ofFields? (form.fieldNames.zip (fields.map Reading.canonical)) form =
          ofFields? (form.fieldNames.zip fields) form := by
      rw [List.zip_map_right]
      refine ofFields?_canonical (fun e he => ?_) form
      exact h _ (List.mem_cons_of_mem _ (List.of_mem_zip he).2)
    simp only [List.map_cons, ofItems?, List.length_map, zipped, Reading.canonical, told]

/-! ## Properties -/

theorem mapM_eq_ite {α β : Type} (f : α → Option β) (xs : List α) :
    xs.mapM f = if xs.all fun x => (f x).isSome then some (xs.filterMap f) else none := by
  induction xs with
  | nil => rfl
  | cons x xs ih =>
    rw [List.mapM_cons, ih, List.all_cons, List.filterMap_cons]
    cases f x with
    | none => rfl
    | some y =>
      simp only [Option.isSome_some, Bool.true_and]
      split <;> rfl

theorem keys_filterMap_sublist (fields : Entries Reading) :
    (Entries.keys (fields.filterMap fun e => e.2.shape.map (e.1, ·))).Sublist
      (Entries.keys fields) := by
  induction fields with
  | nil => exact List.Sublist.slnil
  | cons e fields ih =>
    rw [List.filterMap_cons]
    cases e.2.shape with
    | none => exact ih.cons _
    | some t => exact ih.cons_cons _

/-- The properties that members are, in whatever order they stand. -/
theorem properties_of_perm (h : fields.Perm fields') (nodup : (Entries.keys fields).Nodup) :
    (fields.mapM fun (e : String × Reading) => e.2.shape.map (e.1, ·)).map Entries.ofList =
      (fields'.mapM fun (e : String × Reading) => e.2.shape.map (e.1, ·)).map Entries.ofList := by
  rw [mapM_eq_ite, mapM_eq_ite, h.all_eq]
  split
  · have nodup := nodup.sublist (keys_filterMap_sublist fields)
    rw [Option.map_some, Option.map_some, Entries.ofList_eq_of_perm nodup (h.filterMap _)]
  · rfl

/-! ## Values -/

theorem readings_canonical {items : List Json}
    (each : ∀ v ∈ items, reading v.canonical = (reading v).canonical) :
    readings (Json.canonicalItems items) = (readings items).map Reading.canonical := by
  rw [Json.canonicalItems_eq_map, readings_eq_map, readings_eq_map, List.map_map, List.map_map]
  exact List.map_congr_left each

theorem memberReadings_perm {members : List (String × Json)}
    (nodup : (Entries.keys members).Nodup)
    (each : ∀ m ∈ members, reading m.2.canonical = (reading m.2).canonical) :
    (memberReadings (Entries.ofList (Json.canonicalMembers members))).Perm
      (Entries.mapValues Reading.canonical (memberReadings members)) := by
  have moved : (memberReadings (Entries.ofList (Json.canonicalMembers members))).Perm
      (memberReadings (Json.canonicalMembers members)) := by
    rw [memberReadings_eq_mapValues, memberReadings_eq_mapValues]
    exact (Json.ofList_canonicalMembers_perm nodup).map _
  have same : memberReadings (Json.canonicalMembers members) =
      Entries.mapValues Reading.canonical (memberReadings members) := by
    rw [Json.canonicalMembers_eq_mapValues, memberReadings_eq_mapValues,
      memberReadings_eq_mapValues]
    unfold Entries.mapValues
    rw [List.map_map, List.map_map]
    exact List.map_congr_left fun m hm => Prod.ext rfl (each m hm)
  rw [← same]
  exact moved

/-- A value put in order is read as the value itself. -/
theorem reading_canonical {v : Json} (h : v.Distinct) :
    reading v.canonical = (reading v).canonical := by
  induction v using Json.induct with
  | null | bool _ | number _ | string _ => rfl
  | array items ih =>
    have each := readings_canonical fun v hv => ih v hv (Json.distinctItems_iff.1 h v hv)
    have told := ofItems?_canonical Form.ofJson?_canonical (distinct_readings h)
    simp only [Json.canonical, reading, each, told, Reading.canonical, List.mapM_map,
      Function.comp_def]
  | object members ih =>
    -- the members are moved, and what each of them is read as stays
    have perm := memberReadings_perm h.1 fun m hm => ih m hm (Json.distinctMembers_iff.1 h.2 m hm)
    have told := ofMembers?_canonical Form.ofJson?_canonical (distinct_memberReadings h.2)
    have nodup : (Entries.keys (memberReadings
        (Entries.ofList (Json.canonicalMembers members)))).Nodup := by
      rw [memberReadings_eq_mapValues, Entries.keys_mapValues]
      exact (Entries.ordered_ofList _).nodup
    simp only [Json.canonical, reading, Reading.canonical, ofMembers?_of_perm perm, told,
      properties_of_perm perm nodup]
    simp only [Entries.mapValues, List.mapM_map, Function.comp_def, Reading.canonical]

/-- A shape is read alike from a value and from that value put in order. -/
theorem ofJson?_canonical {v : Json} (h : v.Distinct) : ofJson? v.canonical = ofJson? v := by
  cases v with
  | array items =>
    have each := readings_canonical fun v hv => reading_canonical (Json.distinctItems_iff.1 h v hv)
    rw [Json.canonical, ofJson?, ofJson?, each,
      ofItems?_canonical Form.named?_canonical (distinct_readings h)]
  | object members =>
    have perm := memberReadings_perm h.1 fun m hm =>
      reading_canonical (Json.distinctMembers_iff.1 h.2 m hm)
    rw [Json.canonical, ofJson?, ofJson?, ofMembers?_of_perm perm,
      ofMembers?_canonical Form.named?_canonical (distinct_memberReadings h.2)]
  | null | bool _ | number _ | string _ => rfl

/-! ## Written shapes -/

theorem keys_toJsonMembers (es : List (String × Shape)) :
    Entries.keys (toJsonMembers es) = Entries.keys es := by
  induction es with
  | nil => rfl
  | cons e es ih =>
    obtain ⟨key, t⟩ := e
    simp only [toJsonMembers, Entries.keys, List.map_cons] at ih ⊢
    rw [ih]

theorem distinct_range (range : Interval) : range.toJson.Distinct := by
  have leaf (x : Double) : (Json.ofDouble x).Distinct := by
    unfold Json.ofDouble
    split <;> trivial
  exact ⟨by simp [Entries.keys], leaf range.lo, leaf range.hi, trivial⟩

theorem distinctMembers_toJsonMembers {es : List (String × Shape)}
    (h : ∀ e ∈ es, e.2.toJson.Distinct) : Json.DistinctMembers (toJsonMembers es) := by
  induction es with
  | nil => trivial
  | cons e es ih =>
    rw [List.forall_mem_cons] at h
    exact ⟨h.1, ih h.2⟩

theorem distinctItems_toJsonItems {ts : List Shape} (h : ∀ t ∈ ts, t.toJson.Distinct) :
    Json.DistinctItems (toJsonItems ts) := by
  induction ts with
  | nil => trivial
  | cons t ts ih =>
    rw [List.forall_mem_cons] at h
    exact ⟨h.1, ih h.2⟩

/-- A shape with its keys in order is written without a repeated key. -/
theorem distinct_toJson {t : Shape} (h : t.Canonical) : t.toJson.Distinct := by
  induction t using Shape.induct with
  | unknown | boolean => exact ⟨by simp [Entries.keys], trivial, trivial⟩
  | int range | float range =>
    exact ⟨by simp [Entries.keys, typeMember], trivial, distinct_range range, trivial⟩
  | string format =>
    cases format with
    | none => exact ⟨by simp [Entries.keys, keyword], trivial, trivial⟩
    | some f => exact ⟨by simp [Entries.keys, keyword, typeMember], trivial, trivial, trivial⟩
  | array _ ih | nullable _ ih =>
    exact ⟨by simp [Entries.keys, typeMember], trivial, ih h, trivial⟩
  | object required optional ihr iho =>
    obtain ⟨⟨hr, ho⟩, hcr, hco⟩ := h
    have hr' := distinctMembers_toJsonMembers fun e he =>
      ihr e he (canonicalProperties_iff.1 hcr e he)
    have ho' := distinctMembers_toJsonMembers fun e he =>
      iho e he (canonicalProperties_iff.1 hco e he)
    refine ⟨by simp [Entries.keys, typeMember], trivial, ⟨?_, hr'⟩, ⟨?_, ho'⟩, trivial⟩
    · rw [keys_toJsonMembers]
      exact hr.nodup
    · rw [keys_toJsonMembers]
      exact ho.nodup
  | anyOf ts ih =>
    have each := distinctItems_toJsonItems fun t ht => ih t ht (canonicalAlternatives_iff.1 h t ht)
    exact ⟨by simp [Entries.keys, typeMember], trivial, each, trivial⟩

end Shape

end JsonShape
