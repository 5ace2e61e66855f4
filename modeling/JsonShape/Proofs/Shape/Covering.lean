import Mathlib.Data.String.Basic
import JsonShape.Proofs.Shape.Preservation

/-!
# What a shape covers

`Shape.Covers v t`: the shape `t` describes the value `v` as one of those it came from. Unlike what a
rendered schema accepts, this never gets lost: a range covers a number without regard to bounds being
written, and every key of a covered object is known. A value that has been taken in is covered
(`covers_absorb_self`), and what is covered stays so when any other value is taken in
(`covers_absorb`), whichever formats either of them was looked at for.
-/

set_option autoImplicit false

namespace JsonShape

theorem Detectors.recognises_of_detect {d : Detectors} {s : String} {f : TextFormat}
    (h : d.detect s = some f) : f.recognises s = true := by
  have := List.find?_some h
  rw [Bool.and_eq_true] at this
  exact this.2

namespace Shape

mutual

/-- What is known covers a value. -/
def Covers : Json → Shape → Prop
  | .null, t => t.isNullable = true
  | .bool _, t => t.part? .boolean = some boolean
  | .number n, t => ∃ range : Interval, range.contains n.toDouble = true ∧
    (t.part? .number = some (float range) ∨
      n.isIntegral = true ∧ t.part? .number = some (int range))
  | .string s, t => ∃ format, t.part? .string = some (string format) ∧
    ∀ f ∈ format, f.recognises s = true
  | .array items, t => ∃ s, t.part? .array = some (array s) ∧ CoversItems items s
  | .object members, t => ∃ f, t.part? .object = some (object f) ∧
    (∀ key, f.isRequired key = true → Entries.has key members = true) ∧ CoversMembers members f

/-- What is known about items covers each of them. -/
def CoversItems : List Json → Shape → Prop
  | [], _ => True
  | v :: rest, t => Covers v t ∧ CoversItems rest t

/-- Every member's key is known, and what is known about it covers its value. -/
def CoversMembers : List (String × Json) → Fields Shape → Prop
  | [], _ => True
  | (key, v) :: rest, f => (∃ t, f.get? key = some t ∧ Covers v t) ∧ CoversMembers rest f

end

theorem coversItems_iff {items : List Json} {t : Shape} :
    CoversItems items t ↔ ∀ v ∈ items, Covers v t := by
  induction items with
  | nil => simp [CoversItems]
  | cons v items ih => simp [CoversItems, ih]

theorem coversMembers_iff {members : List (String × Json)} {f : Fields Shape} :
    CoversMembers members f ↔ ∀ m ∈ members, ∃ t, f.get? m.1 = some t ∧ Covers m.2 t := by
  induction members with
  | nil => simp [CoversMembers]
  | cons m members ih => simp [CoversMembers, ih]

/-- What covers a value is what is known about its slot. -/
theorem covers_of_part?_eq {v : Json} {slot : Slot} (hs : v.slot? = some slot) {t u : Shape}
    (h : u.part? slot = t.part? slot) (hc : Covers v t) : Covers v u := by
  cases v with
  | null => cases hs
  | _ => cases hs; simpa only [Covers, h] using hc

theorem covers_absorb_null (d : Detectors) {w : Json} {t : Shape} (h : Covers w t) :
    Covers w (absorb d .null t) := by
  cases hs : w.slot? with
  | none =>
    rw [Json.slot?_eq_none_iff.1 hs]
    exact isNullable_absorb_null d t
  | some slot => exact covers_of_part?_eq hs (part?_absorb_null d slot t) h

/-- A value of another slot leaves alone what covers a value. -/
theorem covers_absorb_of_ne (d : Detectors) {v w : Json} {slot : Slot} (hv : v.slot? = some slot)
    (hw : w.slot? ≠ some slot) {t : Shape} (h : Covers w t) : Covers w (absorb d v t) := by
  cases hs : w.slot? with
  | none =>
    obtain rfl := Json.slot?_eq_none_iff.1 hs
    exact (isNullable_absorb d hv t).trans h
  | some s =>
    refine covers_of_part?_eq hs ?_ h
    rw [part?_absorb d hv, if_neg]
    rintro rfl
    exact hw hs

/-! ## Leaves -/

/-- The range of the shape of numbers, and whether all of them are integers. -/
theorem growNumber_eq (n : Number) (t : Option Shape) : ∃ range : Interval,
    range.contains n.toDouble = true ∧
      (growNumber n t = float range ∨ n.isIntegral = true ∧ growNumber n t = int range) := by
  have self : ∀ i : Interval, (i.extend n.toDouble).contains n.toDouble = true := fun i =>
    i.contains_extend_self n.isNaN_toDouble
  unfold growNumber
  split
  · next range =>
    refine ⟨range.extend n.toDouble, self range, ?_⟩
    split
    · next h => exact .inr ⟨h, rfl⟩
    · exact .inl rfl
  · next range => exact ⟨range.extend n.toDouble, self range, .inl rfl⟩
  · refine ⟨.single n.toDouble, self .empty, ?_⟩
    split
    · next h => exact .inr ⟨h, rfl⟩
    · exact .inl rfl

/-- A number that was covered stays so when another one comes. -/
theorem growNumber_covers {m n : Number} {range : Interval} {t : Shape}
    (hr : range.contains m.toDouble = true)
    (h : t = float range ∨ m.isIntegral = true ∧ t = int range) :
    ∃ range' : Interval, range'.contains m.toDouble = true ∧
      (growNumber n (some t) = float range' ∨
        m.isIntegral = true ∧ growNumber n (some t) = int range') := by
  refine ⟨range.extend n.toDouble, Interval.contains_extend _ hr, ?_⟩
  rcases h with rfl | ⟨hm, rfl⟩
  · exact .inl rfl
  · rw [growNumber]
    split
    · exact .inr ⟨hm, rfl⟩
    · exact .inl rfl

theorem growString_covers {s : String} {known : Option TextFormat} (format : Option TextFormat)
    (h : ∀ f ∈ known, f.recognises s = true) :
    ∃ f', growString format (some (string known)) = string f' ∧ ∀ f ∈ f', f.recognises s = true := by
  refine ⟨_, rfl, ?_⟩
  split
  · exact h
  · simp

/-! ## What is covered stays covered -/

/-- Fields in which nothing is forgotten: what was known about a key still is, or has taken in a
value. -/
def Widens (d : Detectors) (f g : Fields Shape) : Prop :=
  ∀ key t, f.get? key = some t →
    g.get? key = some t ∨ ∃ v : Json, v.Canonical ∧ g.get? key = some (absorb d v t)

theorem widens_takeIn (d : Detectors) {members : List (String × Json)}
    (hm : (Json.object members).Canonical) {f : Fields Shape} (hf : f.Proper) :
    Widens d f (takeIn d members (some f)) := by
  intro key t ht
  have proper : ∀ g ∈ some f, g.Proper := fun g hg => Option.some.inj hg ▸ hf
  rw [get?_takeIn d hm.1 proper]
  split
  · next v hv =>
    refine .inr ⟨v, Json.canonicalMembers_iff.1 hm.2 _ (Entries.mem_of_get? hv), ?_⟩
    rw [known?, Option.bind_some, ht, Option.getD_some]
  · exact .inl ht

/-- Items are taken in one after another, so what each of them leaves covered all do. -/
theorem covers_absorbItems (d : Detectors) {w : Json}
    (stays : ∀ {t : Shape}, t.WellFormed → Covers w t →
      ∀ {v : Json}, v.Canonical → Covers w (absorb d v t))
    {items : List Json} (hv : ∀ v ∈ items, v.Canonical) {t : Shape} (ht : t.WellFormed)
    (h : Covers w t) : Covers w (absorbItems d items t) := by
  have kept := absorbItems_keeps d (P := fun u => u.WellFormed ∧ Covers w u)
    (fun v hm u hu => ⟨wellFormed_absorb d v (hv v hm) hu.1, stays hu.1 hu.2 (hv v hm)⟩) ⟨ht, h⟩
  exact kept.2

/-- What is covered stays covered when another value is taken in. -/
theorem covers_absorb (d : Detectors) (w : Json) {t : Shape} (ht : t.WellFormed) (h : Covers w t)
    {v : Json} (hv : v.Canonical) : Covers w (absorb d v t) := by
  induction w using Json.induct generalizing t v with
  | null =>
    cases hs : v.slot? with
    | none => rw [Json.slot?_eq_none_iff.1 hs]; exact covers_absorb_null d h
    | some slot => exact covers_absorb_of_ne d hs (by simp [Json.slot?]) h
  | bool _ =>
    cases v with
    | null => exact covers_absorb_null d h
    | bool b => exact part?_absorb_self d rfl t
    | _ => exact covers_absorb_of_ne d rfl (by simp [Json.slot?]) h
  | number m =>
    cases v with
    | null => exact covers_absorb_null d h
    | number n =>
      obtain ⟨range, hr, hp⟩ := h
      obtain ⟨u, hu, hk⟩ : ∃ u, t.part? .number = some u ∧
          (u = float range ∨ m.isIntegral = true ∧ u = int range) := by
        rcases hp with hp | ⟨hm, hp⟩
        · exact ⟨_, hp, .inl rfl⟩
        · exact ⟨_, hp, .inr ⟨hm, rfl⟩⟩
      obtain ⟨range', hr', hg⟩ := growNumber_covers (n := n) hr hk
      have hnew := part?_absorb_self d (v := .number n) rfl t
      rw [hu] at hnew
      refine ⟨range', hr', ?_⟩
      rw [hnew]
      exact hg.imp (congrArg some) (fun hi => ⟨hi.1, congrArg some hi.2⟩)
    | _ => exact covers_absorb_of_ne d rfl (by simp [Json.slot?]) h
  | string s =>
    cases v with
    | null => exact covers_absorb_null d h
    | string s' =>
      obtain ⟨known, hp, hk⟩ := h
      obtain ⟨f', hg, hf'⟩ := growString_covers (d.detect s') hk
      refine ⟨f', ?_, hf'⟩
      rw [part?_absorb_self d rfl, hp, grow, hg]
    | _ => exact covers_absorb_of_ne d rfl (by simp [Json.slot?]) h
  | array items ih =>
    cases v with
    | null => exact covers_absorb_null d h
    | array more =>
      obtain ⟨s, hp, hs⟩ := h
      refine ⟨absorbItems d more s, ?_, coversItems_iff.2 fun w hw => ?_⟩
      · rw [part?_absorb_array, knownItems_of_part? hp]
      · exact covers_absorbItems d (ih w hw) (fun v hm => hv.items hm)
          (wellFormed_array.1 (ht.part? hp)) (coversItems_iff.1 hs w hw)
    | _ => exact covers_absorb_of_ne d rfl (by simp [Json.slot?]) h
  | object members ih =>
    cases v with
    | null => exact covers_absorb_null d h
    | object more =>
      obtain ⟨f, hp, hreq, hm⟩ := h
      have hf := wellFormed_object.1 (ht.part? hp)
      refine ⟨takeIn d more (some f), ?_, fun key hk => ?_, coversMembers_iff.2 fun m hmem => ?_⟩
      · rw [part?_absorb_object, knownFields_of_part? hp]
      · rw [isRequired_takeIn, Bool.and_eq_true] at hk
        exact hreq key hk.2
      · obtain ⟨u, hu, hw⟩ := coversMembers_iff.1 hm m hmem
        rcases widens_takeIn d hv hf.1 m.1 u hu with hg | ⟨v, hv, hg⟩
        · exact ⟨u, hg, hw⟩
        · exact ⟨absorb d v u, hg, ih m hmem (hf.2 _ u hu).2 hw hv⟩
    | _ => exact covers_absorb_of_ne d rfl (by simp [Json.slot?]) h

/-! ## A value that has been taken in is covered -/

/-- Items that have been taken in are covered, if each is when it comes. -/
theorem coversItems_absorbItems (d : Detectors) {items : List Json}
    (hv : ∀ v ∈ items, v.Canonical)
    (each : ∀ v ∈ items, ∀ {t : Shape}, t.WellFormed → Covers v (absorb d v t)) {t : Shape}
    (ht : t.WellFormed) : CoversItems items (absorbItems d items t) := by
  induction items generalizing t with
  | nil => trivial
  | cons v rest ih =>
    rw [List.forall_mem_cons] at hv each
    have ht' := wellFormed_absorb d v hv.1 ht
    have first := covers_absorbItems d (covers_absorb d v) hv.2 ht' (each.1 ht)
    exact ⟨first, ih hv.2 each.2 ht'⟩

/-- A value that has been taken in is covered. -/
theorem covers_absorb_self (d : Detectors) (v : Json) {t : Shape} (hv : v.Canonical)
    (ht : t.WellFormed) : Covers v (absorb d v t) := by
  induction v using Json.induct generalizing t with
  | null => exact isNullable_absorb_null d t
  | bool _ => exact part?_absorb_self d rfl t
  | number n =>
    obtain ⟨range, hr, hg⟩ := growNumber_eq n (t.part? .number)
    refine ⟨range, hr, ?_⟩
    rw [part?_absorb_self d rfl]
    exact hg.imp (congrArg some) (fun hi => ⟨hi.1, congrArg some hi.2⟩)
  | string s =>
    have detected : ∀ f ∈ d.detect s, f.recognises s = true := fun f hf =>
      Detectors.recognises_of_detect hf
    rw [Covers, part?_absorb_self d rfl, grow_string]
    unfold growString
    split
    · next known _ =>
      refine ⟨_, rfl, ?_⟩
      split
      · next h => rw [h]; exact detected
      · simp
    · exact ⟨_, rfl, detected⟩
  | array items ih =>
    refine ⟨_, part?_absorb_array d items t, ?_⟩
    exact coversItems_absorbItems d (fun v hm => hv.items hm) (fun v hm _ => ih v hm (hv.items hm))
      ht.knownItems
  | object members ih =>
    have proper : ∀ f ∈ t.knownFields, f.Proper := fun f hf => (ht.knownFields hf).1
    refine ⟨_, part?_absorb_object d members t, fun key hk => ?_,
      coversMembers_iff.2 fun m hm => ⟨_, ?_, ih m hm (hv.members hm) (ht.known m.1)⟩⟩
    · rw [isRequired_takeIn, Bool.and_eq_true] at hk
      exact hk.1
    · rw [get?_takeIn d hv.1 proper, Entries.get?_of_mem hv.1.nodup hm]

end Shape

end JsonShape
