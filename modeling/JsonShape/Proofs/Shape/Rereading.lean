import JsonShape.Proofs.Json.Rereading
import JsonShape.Proofs.Shape.Codec

/-!
# Shapes as their texts are read

`Shape.reread?` is a shape with the ends of its ranges as their texts are read. It is what the value of a
sound shape is read as (`reread?_toJson`), and it is read back in its turn, sound or not
(`readsBack_of_reread?`). So a shape comes back exactly if all its ends do (`reread?_eq_self_iff`).
-/

set_option autoImplicit false

namespace JsonShape

/-! ## Ends -/

/-- What the text of a double is read as. -/
def Double.reread? (x : Double) : Option Double :=
  (Number.ofDouble? x).bind fun n => n.reread?.map Number.toDouble

theorem Double.reread?_of_isFinite {x : Double} (h : x.isFinite = true) :
    x.reread? = (Number.double x h).reread?.map Number.toDouble := by
  rw [reread?, Number.ofDouble?, dif_pos h, Option.bind_some]

theorem Double.isFinite_of_reread? {x y : Double} (h : x.reread? = some y) : y.isFinite = true := by
  by_cases finite : x.isFinite = true
  · rw [reread?_of_isFinite finite, Option.map_eq_some_iff] at h
    obtain ⟨n, hn, rfl⟩ := h
    obtain ⟨value, finite', rfl⟩ := Number.exists_of_reread?_double hn
    exact finite'
  · rw [reread?, Number.ofDouble?, dif_neg finite] at h
    cases h

theorem Json.reread?_ofDouble {x : Double} (h : x.isFinite = true) :
    (ofDouble x).reread? = x.reread?.map ofDouble := by
  rw [ofDouble_of_isFinite h, reread?, Double.reread?_of_isFinite h, Option.map_map]
  cases read : (Number.double x h).reread? with
  | none => rfl
  | some n =>
    obtain ⟨value, finite, rfl⟩ := Number.exists_of_reread?_double read
    exact congrArg some (ofDouble_of_isFinite finite).symm

namespace Interval

/-- A range with both ends as their texts are read. -/
def reread? (range : Interval) : Option Interval := do
  let lo ← range.lo.reread?
  let hi ← range.hi.reread?
  some ⟨lo, hi⟩

theorem reread?_toJson {range : Interval} (valid : range.Valid) :
    range.toJson.reread? = range.reread?.map toJson := by
  simp only [toJson, Json.reread?, Json.rereadMembers?, Json.reread?_ofDouble valid.lo_finite,
    Json.reread?_ofDouble valid.hi_finite, reread?]
  cases range.lo.reread? with
  | none => rfl
  | some lo => cases range.hi.reread? <;> rfl

theorem isFinite_of_reread? {range range' : Interval} (h : range.reread? = some range') :
    range'.lo.isFinite = true ∧ range'.hi.isFinite = true := by
  simp only [reread?, bind, Option.bind_eq_some_iff, Option.some.injEq] at h
  obtain ⟨lo, hlo, hi, hhi, rfl⟩ := h
  exact ⟨Double.isFinite_of_reread? hlo, Double.isFinite_of_reread? hhi⟩

end Interval

namespace Shape

/-! ## Shapes -/

mutual

/-- A shape with the ends of its ranges as their texts are read; none if one is read as no number. -/
def reread? : Shape → Option Shape
  | int range => range.reread?.map int
  | float range => range.reread?.map float
  | array items => (reread? items).map array
  | object ⟨required, optional⟩ => do
    let required ← rereadProperties? required
    let optional ← rereadProperties? optional
    some (object ⟨required, optional⟩)
  | nullable inner => (reread? inner).map nullable
  | anyOf alternatives => (rereadAlternatives? alternatives).map anyOf
  | t => some t

/-- `reread?`, for the shape of each key. -/
def rereadProperties? : List (String × Shape) → Option (List (String × Shape))
  | [] => some []
  | (key, t) :: rest => do
    let t ← reread? t
    let ts ← rereadProperties? rest
    some ((key, t) :: ts)

/-- `reread?`, one by one. -/
def rereadAlternatives? : List Shape → Option (List Shape)
  | [] => some []
  | t :: rest => do
    let t ← reread? t
    let ts ← rereadAlternatives? rest
    some (t :: ts)

end

/-- Every end of a range in the shape is read back from its text. -/
def Faithful (t : Shape) : Prop := t.toJson.Faithful

instance : DecidablePred Faithful := fun t => inferInstanceAs (Decidable t.toJson.Faithful)

/-! ## Values of shapes -/

theorem rereadMembers?_toJsonMembers {es : Entries Shape}
    (h : ∀ e ∈ es, e.2.toJson.reread? = e.2.reread?.map toJson) :
    Json.rereadMembers? (toJsonMembers es) = (rereadProperties? es).map toJsonMembers := by
  induction es with
  | nil => rfl
  | cons e es ih =>
    obtain ⟨key, t⟩ := e
    rw [List.forall_mem_cons] at h
    rw [toJsonMembers, Json.rereadMembers?, h.1, ih h.2, rereadProperties?]
    cases t.reread? with
    | none => rfl
    | some t => cases rereadProperties? es <;> rfl

theorem rereadItems?_toJsonItems {ts : List Shape}
    (h : ∀ t ∈ ts, t.toJson.reread? = t.reread?.map toJson) :
    Json.rereadItems? (toJsonItems ts) = (rereadAlternatives? ts).map toJsonItems := by
  induction ts with
  | nil => rfl
  | cons t ts ih =>
    rw [List.forall_mem_cons] at h
    rw [toJsonItems, Json.rereadItems?, h.1, ih h.2, rereadAlternatives?]
    cases t.reread? with
    | none => rfl
    | some t => cases rereadAlternatives? ts <;> rfl

/-- The value of a sound shape is read as the value of the shape that it is read as. -/
theorem reread?_toJson {t : Shape} (sound : t.Sound) : t.toJson.reread? = t.reread?.map toJson := by
  induction t using Shape.induct with
  | unknown | boolean => rfl
  | string format => cases format <;> rfl
  | int range | float range =>
    simp only [toJson, typeMember, Json.reread?, Json.rereadMembers?, Interval.reread?_toJson sound,
      reread?]
    cases range.reread? <;> rfl
  | array items ih =>
    simp only [toJson, typeMember, Json.reread?, Json.rereadMembers?, ih sound, reread?]
    cases items.reread? <;> rfl
  | object required optional ihr iho =>
    obtain ⟨-, hr, ho⟩ := sound
    have readr := rereadMembers?_toJsonMembers fun e he => ihr e he (soundProperties_iff.1 hr e he).2
    have reado := rereadMembers?_toJsonMembers fun e he => iho e he (soundProperties_iff.1 ho e he).2
    simp only [toJson, typeMember, Json.reread?, Json.rereadMembers?, readr, reado, reread?]
    cases rereadProperties? required with
    | none => rfl
    | some required => cases rereadProperties? optional <;> rfl
  | nullable inner ih =>
    simp only [toJson, typeMember, Json.reread?, Json.rereadMembers?, ih sound.2, reread?]
    cases inner.reread? <;> rfl
  | anyOf alternatives ih =>
    have read := rereadItems?_toJsonItems fun t ht => ih t ht (soundAlternatives_iff.1 sound.2.2 t ht).2
    simp only [toJson, typeMember, Json.reread?, Json.rereadMembers?, read, reread?]
    cases rereadAlternatives? alternatives <;> rfl

/-! ## Reading them back -/

theorem keys_of_rereadProperties? {es es' : Entries Shape} (h : rereadProperties? es = some es') :
    Entries.keys es' = Entries.keys es := by
  induction es generalizing es' with
  | nil =>
    cases h
    rfl
  | cons e es ih =>
    obtain ⟨key, t⟩ := e
    simp only [rereadProperties?, bind, Option.bind_eq_some_iff, Option.some.injEq] at h
    obtain ⟨t', -, rest, hrest, rfl⟩ := h
    exact congrArg (key :: ·) (ih hrest)

theorem forall_of_rereadProperties? {P : Shape → Prop} {es es' : Entries Shape}
    (h : rereadProperties? es = some es') (each : ∀ e ∈ es, ∀ t, e.2.reread? = some t → P t) :
    ∀ e ∈ es', P e.2 := by
  induction es generalizing es' with
  | nil =>
    cases h
    exact fun e he => nomatch he
  | cons e es ih =>
    obtain ⟨key, t⟩ := e
    simp only [rereadProperties?, bind, Option.bind_eq_some_iff, Option.some.injEq] at h
    obtain ⟨t', ht, rest, hrest, rfl⟩ := h
    rw [List.forall_mem_cons] at each ⊢
    exact ⟨each.1 t' ht, ih hrest each.2⟩

theorem forall_of_rereadAlternatives? {P : Shape → Prop} {ts ts' : List Shape}
    (h : rereadAlternatives? ts = some ts') (each : ∀ t ∈ ts, ∀ t', t.reread? = some t' → P t') :
    ∀ t ∈ ts', P t := by
  induction ts generalizing ts' with
  | nil =>
    cases h
    exact fun t ht => nomatch ht
  | cons t ts ih =>
    simp only [rereadAlternatives?, bind, Option.bind_eq_some_iff, Option.some.injEq] at h
    obtain ⟨t', ht, rest, hrest, rfl⟩ := h
    rw [List.forall_mem_cons] at each ⊢
    exact ⟨each.1 t' ht, ih hrest each.2⟩

/-- What a shape with its keys in order is read as is read back: its keys are the same, and what is read is
finite. -/
theorem readsBack_of_reread? {t t' : Shape} (canonical : t.Canonical) (h : t.reread? = some t') :
    t'.ReadsBack := by
  induction t using Shape.induct generalizing t' with
  | unknown | boolean | string format =>
    cases h
    exact readsBack trivial trivial
  | int range =>
    obtain ⟨range', hr, rfl⟩ := Option.map_eq_some_iff.1 h
    obtain ⟨lo, hi⟩ := Interval.isFinite_of_reread? hr
    exact readsBack_int lo hi
  | float range =>
    obtain ⟨range', hr, rfl⟩ := Option.map_eq_some_iff.1 h
    obtain ⟨lo, hi⟩ := Interval.isFinite_of_reread? hr
    exact readsBack_float lo hi
  | array items ih =>
    obtain ⟨items', hi, rfl⟩ := Option.map_eq_some_iff.1 h
    exact readsBack_array (ih canonical hi)
  | object required optional ihr iho =>
    obtain ⟨⟨hr, ho⟩, hcr, hco⟩ := canonical
    simp only [reread?, bind, Option.bind_eq_some_iff, Option.some.injEq] at h
    obtain ⟨required', readr, optional', reado, rfl⟩ := h
    refine readsBack_object ?_ ?_ (forall_of_rereadProperties? readr fun e he t => ?_)
      (forall_of_rereadProperties? reado fun e he t => ?_)
    · rwa [Entries.Ordered, keys_of_rereadProperties? readr]
    · rwa [Entries.Ordered, keys_of_rereadProperties? reado]
    · exact ihr e he (canonicalProperties_iff.1 hcr e he)
    · exact iho e he (canonicalProperties_iff.1 hco e he)
  | nullable inner ih =>
    obtain ⟨inner', hi, rfl⟩ := Option.map_eq_some_iff.1 h
    exact readsBack_nullable (ih canonical hi)
  | anyOf alternatives ih =>
    obtain ⟨alternatives', ha, rfl⟩ := Option.map_eq_some_iff.1 h
    exact readsBack_anyOf (forall_of_rereadAlternatives? ha fun t ht t' =>
      ih t ht (canonicalAlternatives_iff.1 canonical t ht))

/-- A sound shape is read as it is exactly if all ends of its ranges are. -/
theorem reread?_eq_self_iff {t : Shape} (canonical : t.Canonical) (sound : t.Sound) :
    t.reread? = some t ↔ t.Faithful := by
  rw [Faithful, ← Json.reread?_eq_self_iff, reread?_toJson sound, Option.map_eq_some_iff]
  constructor
  · intro self
    exact ⟨t, self, rfl⟩
  · rintro ⟨t', read, same⟩
    -- both shapes are read back from the one value
    have back := (readsBack_of_reread? canonical read).ofJson?
    rw [same, ofJson?_toJson canonical sound] at back
    exact read.trans back.symm

end Shape

end JsonShape
