import Mathlib.Data.String.Basic
import JsonShape.Proofs.Shape.WellFormed
import JsonShape.Shape.Codec

/-!
# Shapes read back

A sound shape with its keys in order is read back from the value that it is written as
(`ofJson?_toJson`): whether the form is told by name only or by name or number (`Names`), as at the top
of a shape or inside it (`ReadsBack`). Ranges need finite ends for this, since what is not finite has no
number, and they need nothing else.
-/

set_option autoImplicit false

namespace JsonShape

/-! ## Leaves -/

theorem Json.ofDouble_of_isFinite {x : Double} (h : x.isFinite = true) :
    ofDouble x = .number (.double x h) := by
  rw [ofDouble, Number.ofDouble?, dif_pos h]

theorem Interval.ofJson?_toJson {range : Interval} (lo : range.lo.isFinite = true)
    (hi : range.hi.isFinite = true) : ofJson? range.toJson = some range := by
  rw [toJson, Json.ofDouble_of_isFinite lo, Json.ofDouble_of_isFinite hi]
  rfl

theorem TextFormat.ofJson?_name (format : TextFormat) :
    ofJson? (.string format.name) = some format := by
  cases format <;> rfl

/-- A way of telling forms under which every form has its name. -/
def Form.Names (form? : Json → Option Form) : Prop :=
  ∀ form : Form, form? (.string form.name) = some form

theorem Form.names_named? : Names named? := by
  intro form
  cases form <;> rfl

theorem Form.names_ofJson? : Names ofJson? := Form.names_named?

namespace Shape

/-! ## Members -/

theorem json_reading (v : Json) : (reading v).json = v := by
  cases v <;> rfl

/-- Members that begin with the type say what the others are as fields. -/
theorem ofMembers?_typeMember {form? : Json → Option Form} (names : Form.Names form?) (form : Form)
    {rest : List (String × Json)} (other : ∀ m ∈ rest, m.1 ≠ "type") :
    ofMembers? form? (memberReadings (typeMember form :: rest)) =
      ofFields? (memberReadings (typeMember form :: rest)) form := by
  have alone : (memberReadings rest).filter (fun e => e.1 == "type") = [] := by
    induction rest with
    | nil => rfl
    | cons m rest ih =>
      rw [List.forall_mem_cons] at other
      rw [memberReadings, List.filter_cons_of_neg (by simpa using other.1), ih other.2]
  have type : Entries.only? "type" (memberReadings (typeMember form :: rest)) =
      some (reading (.string form.name)) := by
    rw [typeMember, memberReadings, Entries.only?, Entries.atMostOne?,
      List.filter_cons_of_pos (by simp), alone]
    rfl
  simp only [ofMembers?, type, bind, Option.bind_some, json_reading, names form]

theorem properties_memberReadings {es : Entries Shape} (ordered : Entries.Ordered es)
    (h : ∀ e ∈ es, (reading e.2.toJson).shape = some e.2) :
    (reading (.object (toJsonMembers es))).properties = some es := by
  have shapes : (memberReadings (toJsonMembers es)).mapM
      (fun (e : String × Reading) => e.2.shape.map (e.1, ·)) = some es := by
    clear ordered
    induction es with
    | nil => rfl
    | cons e es ih =>
      rw [List.forall_mem_cons] at h
      rw [toJsonMembers, memberReadings, List.mapM_cons, ih h.2]
      simp only [h.1]
      rfl
  simp only [reading, shapes, Option.map_some, Entries.ofList_eq_self ordered]

theorem shapes_readings {ts : List Shape} (h : ∀ t ∈ ts, (reading t.toJson).shape = some t) :
    (reading (.array (toJsonItems ts))).shapes = some ts := by
  simp only [reading]
  induction ts with
  | nil => rfl
  | cons t ts ih =>
    rw [List.forall_mem_cons] at h
    rw [toJsonItems, readings, List.mapM_cons, ih h.2, h.1]
    rfl

/-! ## Shapes -/

/-- A shape is an object from whose members it is read back, however the form is told. -/
def ReadsBack (t : Shape) : Prop :=
  ∃ members, t.toJson = .object members ∧
    ∀ form?, Form.Names form? → ofMembers? form? (memberReadings members) = some t

theorem ReadsBack.reading {t : Shape} (h : t.ReadsBack) : (reading t.toJson).shape = some t := by
  obtain ⟨members, hm, read⟩ := h
  rw [hm]
  exact read _ Form.names_ofJson?

section
variable {range : Interval} (lo : range.lo.isFinite = true) (hi : range.hi.isFinite = true)
include lo hi

theorem readsBack_int : (int range).ReadsBack := by
  refine ⟨_, rfl, fun form? names => ?_⟩
  rw [ofMembers?_typeMember names .int (by simp)]
  simp [ofFields?, Entries.only?, Entries.atMostOne?, memberReadings, typeMember, json_reading,
    Interval.ofJson?_toJson lo hi]

theorem readsBack_float : (float range).ReadsBack := by
  refine ⟨_, rfl, fun form? names => ?_⟩
  rw [ofMembers?_typeMember names .float (by simp)]
  simp [ofFields?, Entries.only?, Entries.atMostOne?, memberReadings, typeMember, json_reading,
    Interval.ofJson?_toJson lo hi]

end

theorem readsBack_string (format : Option TextFormat) : (string format).ReadsBack := by
  refine ⟨_, rfl, fun form? names => ?_⟩
  cases format with
  | none => exact ofMembers?_typeMember names .string (by simp [keyword])
  | some format =>
    rw [keyword, ofMembers?_typeMember names .string (by simp)]
    simp [ofFields?, Entries.atMostOne?, memberReadings, typeMember, json_reading, optional?,
      TextFormat.ofJson?_name]

theorem readsBack_array {items : Shape} (h : items.ReadsBack) : (array items).ReadsBack := by
  have read := h.reading
  refine ⟨_, rfl, fun form? names => ?_⟩
  rw [ofMembers?_typeMember names .array (by simp)]
  simp [ofFields?, Entries.only?, Entries.atMostOne?, memberReadings, typeMember, read]

theorem readsBack_nullable {inner : Shape} (h : inner.ReadsBack) : (nullable inner).ReadsBack := by
  have read := h.reading
  refine ⟨_, rfl, fun form? names => ?_⟩
  rw [ofMembers?_typeMember names .nullable (by simp)]
  simp [ofFields?, Entries.only?, Entries.atMostOne?, memberReadings, typeMember, read]

theorem readsBack_object {required optional : Entries Shape} (hr : Entries.Ordered required)
    (ho : Entries.Ordered optional) (ihr : ∀ e ∈ required, e.2.ReadsBack)
    (iho : ∀ e ∈ optional, e.2.ReadsBack) : (object ⟨required, optional⟩).ReadsBack := by
  have readr := properties_memberReadings hr fun e he => (ihr e he).reading
  have reado := properties_memberReadings ho fun e he => (iho e he).reading
  refine ⟨_, rfl, fun form? names => ?_⟩
  rw [ofMembers?_typeMember names .object (by simp)]
  simp [ofFields?, properties?, Entries.atMostOne?, memberReadings, typeMember, readr, reado]

theorem readsBack_anyOf {alternatives : List Shape} (h : ∀ t ∈ alternatives, t.ReadsBack) :
    (anyOf alternatives).ReadsBack := by
  have read := shapes_readings fun t ht => (h t ht).reading
  refine ⟨_, rfl, fun form? names => ?_⟩
  rw [ofMembers?_typeMember names .any (by simp)]
  simp [ofFields?, Entries.only?, Entries.atMostOne?, memberReadings, typeMember, read]

/-- A sound shape with its keys in order is read back. -/
theorem readsBack {t : Shape} (hc : t.Canonical) (hs : t.Sound) : t.ReadsBack := by
  induction t using Shape.induct with
  | unknown => exact ⟨_, rfl, fun form? names => ofMembers?_typeMember names .unknown (by simp)⟩
  | boolean => exact ⟨_, rfl, fun form? names => ofMembers?_typeMember names .boolean (by simp)⟩
  | int range => exact readsBack_int hs.lo_finite hs.hi_finite
  | float range => exact readsBack_float hs.lo_finite hs.hi_finite
  | string format => exact readsBack_string format
  | array items ih => exact readsBack_array (ih hc hs)
  | object required optional ihr iho =>
    obtain ⟨⟨hr, ho⟩, hcr, hco⟩ := hc
    obtain ⟨-, hsr, hso⟩ := hs
    refine readsBack_object hr ho (fun e he => ?_) fun e he => ?_
    · exact ihr e he (canonicalProperties_iff.1 hcr e he) (soundProperties_iff.1 hsr e he).2
    · exact iho e he (canonicalProperties_iff.1 hco e he) (soundProperties_iff.1 hso e he).2
  | nullable inner ih => exact readsBack_nullable (ih hc hs.2)
  | anyOf alternatives ih =>
    exact readsBack_anyOf fun t ht => ih t ht (canonicalAlternatives_iff.1 hc t ht)
      (soundAlternatives_iff.1 hs.2.2 t ht).2

theorem ReadsBack.ofJson? {t : Shape} (h : t.ReadsBack) : ofJson? t.toJson = some t := by
  obtain ⟨members, hm, read⟩ := h
  rw [hm]
  exact read _ Form.names_named?

theorem ofJson?_toJson {t : Shape} (hc : t.Canonical) (hs : t.Sound) : ofJson? t.toJson = some t :=
  (readsBack hc hs).ofJson?

end Shape

end JsonShape
