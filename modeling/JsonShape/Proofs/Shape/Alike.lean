import Mathlib.Data.List.Sort
import Mathlib.Data.String.Basic
import JsonShape.Proofs.Shape.Outline

/-!
# Shapes that differ in order only

`Shape.Alike`: two shapes are the same up to the order of alternatives and the sign of zero, at every
depth. Well-formed shapes with the same outline are alike (`alike_of_outline_eq`), so the order in
which values are taken in does not matter (`alike_of_perm`).
-/

set_option autoImplicit false

namespace JsonShape

namespace Shape

mutual

/-- Two shapes are the same up to the order of alternatives and the sign of zero. -/
def Alike : Shape → Shape → Prop
  | unknown, unknown => True
  | boolean, boolean => True
  | int r, int s => r.Alike s
  | float r, float s => r.Alike s
  | string f, string g => f = g
  | array s, array t => Alike s t
  | object ⟨required, optional⟩, object ⟨required', optional'⟩ =>
    AlikeProperties required required' ∧ AlikeProperties optional optional'
  | nullable s, nullable t => Alike s t
  | anyOf ss, anyOf ts => AlikeAlternatives ss ts
  | _, _ => False

/-- The same keys, with shapes that are alike. -/
def AlikeProperties : List (String × Shape) → List (String × Shape) → Prop
  | [], [] => True
  | (j, s) :: ss, (k, t) :: ts => j = k ∧ Alike s t ∧ AlikeProperties ss ts
  | _, _ => False

/-- In some order, the shapes are alike one by one. -/
def AlikeAlternatives : List Shape → List Shape → Prop
  | [], ts => ts = []
  | s :: ss, ts => ∃ t rest, ts.Perm (t :: rest) ∧ Alike s t ∧ AlikeAlternatives ss rest

end

theorem Interval.alike_of_positions {i j : Interval} (hi : i.Valid) (hj : j.Valid)
    (h : i.positions = j.positions) : i.Alike j := by
  have eqv : ∀ {x y : Double}, x.isFinite = true → y.isFinite = true →
      x.position.getD 0 = y.position.getD 0 → x.eqv y = true := by
    intro x y hx hy he
    obtain ⟨p, hp⟩ := Double.exists_position (Double.isNaN_of_isFinite hx)
    obtain ⟨q, hq⟩ := Double.exists_position (Double.isNaN_of_isFinite hy)
    simp only [hp, hq, Option.getD_some] at he
    simp [Double.eqv, hp, hq, he]
  rw [Interval.positions, Interval.positions, Prod.mk.injEq] at h
  exact ⟨eqv hi.lo_finite hj.lo_finite h.1, eqv hi.hi_finite hj.hi_finite h.2⟩

/-- What is known about a slot is alike, or nothing is known about it. -/
def AlikeParts : Option Shape → Option Shape → Prop
  | none, none => True
  | some s, some t => Alike s t
  | _, _ => False

theorem alikeAlternatives_of_parts {ss ts : List Shape} (hs : ∀ s ∈ ss, s.slot?.isSome = true)
    (ht : ∀ t ∈ ts, t.slot?.isSome = true) (nodup : (ss.map slot?).Nodup)
    (nodup' : (ts.map slot?).Nodup)
    (h : ∀ slot, AlikeParts (partOf? slot ss) (partOf? slot ts)) : AlikeAlternatives ss ts := by
  induction ss generalizing ts with
  | nil =>
    refine List.eq_nil_iff_forall_not_mem.2 fun t hm => ?_
    obtain ⟨slot, hslot⟩ := Option.isSome_iff_exists.1 (ht t hm)
    have := h slot
    rw [partOf?_of_mem nodup' hm hslot] at this
    exact this
  | cons s ss ih =>
    rw [List.forall_mem_cons] at hs
    rw [List.map_cons, List.nodup_cons] at nodup
    obtain ⟨slot, hslot⟩ := Option.isSome_iff_exists.1 hs.1
    have first := h slot
    have hhead : partOf? slot (s :: ss) = some s := by simp [partOf?, hslot]
    rw [hhead] at first
    cases hp : partOf? slot ts with
    | none => rw [hp] at first; exact absurd first id
    | some t =>
      rw [hp] at first
      obtain ⟨before, after, rfl⟩ := List.append_of_mem (mem_of_partOf? hp)
      have same : ∀ u, u ∈ before ++ t :: after ↔ u = t ∨ u ∈ before ++ after := by
        intro u
        simp only [List.mem_append, List.mem_cons]
        tauto
      have distinct : ((t :: (before ++ after)).map slot?).Nodup :=
        (List.perm_middle.map slot?).nodup_iff.1 nodup'
      rw [List.map_cons, List.nodup_cons] at distinct
      have tslot := slot?_of_partOf? hp
      refine ⟨t, before ++ after, List.perm_middle, first, ih hs.2
        (fun u hu => ht u ((same u).2 (.inr hu))) nodup.2 distinct.2 fun other => ?_⟩
      by_cases he : other = slot
      · -- the slot of the heads has no further shape on either side
        subst he
        rw [partOf?_eq_none_iff.2 (by rw [← hslot]; exact nodup.1),
          partOf?_eq_none_iff.2 (by rw [← tslot]; exact distinct.1)]
        trivial
      · have rest := h other
        have hne : some slot ≠ some other := fun hs => he (Option.some.inj hs).symm
        have left : partOf? other (s :: ss) = partOf? other ss := by
          simp [partOf?, hslot, hne]
        have right : partOf? other (before ++ t :: after) = partOf? other (before ++ after) := by
          simp [partOf?, List.find?_append, tslot, hne]
        rwa [left, right] at rest

/-- Alternatives that are alike make up shapes that are alike. -/
theorem alike_rebuild (null : Bool) {ss ts : List Shape} (h : AlikeAlternatives ss ts) :
    Alike (rebuild null ss) (rebuild null ts) := by
  have flat : Alike (ofAlternatives ss) (ofAlternatives ts) := by
    match ss, ts, h with
    | [], _, h => rw [AlikeAlternatives] at h; rw [h]; trivial
    | [s], ts, ⟨t, rest, perm, hst, hrest⟩ =>
      rw [AlikeAlternatives] at hrest
      rw [hrest, List.perm_singleton] at perm
      rw [perm]
      exact hst
    | s :: s' :: ss, ts, ⟨t, rest, perm, hst, t', rest', perm', hst', hrest⟩ =>
      have two : 2 ≤ ts.length := by
        rw [perm.length_eq, List.length_cons, perm'.length_eq, List.length_cons]
        omega
      match ts, two with
      | u :: u' :: us, _ => exact ⟨t, rest, perm, hst, t', rest', perm', hst', hrest⟩
  cases null with
  | false => exact flat
  | true => exact flat

theorem alikeProperties_of_keys_eq {es fs : Entries Shape} (keys : Entries.keys es = Entries.keys fs)
    (nodup : (Entries.keys es).Nodup)
    (h : ∀ key, AlikeParts (Entries.get? key es) (Entries.get? key fs)) :
    AlikeProperties es fs := by
  induction es generalizing fs with
  | nil =>
    cases fs with
    | nil => trivial
    | cons f fs => cases keys
  | cons e es ih =>
    cases fs with
    | nil => cases keys
    | cons f fs =>
      obtain ⟨j, s⟩ := e
      obtain ⟨k, t⟩ := f
      simp only [Entries.keys, List.map_cons, List.cons.injEq] at keys
      obtain ⟨rfl, hkeys⟩ := keys
      rw [Entries.keys, List.map_cons, List.nodup_cons] at nodup
      have first := h j
      simp only [Entries.get?, if_true] at first
      refine ⟨rfl, first, ih hkeys nodup.2 fun key => ?_⟩
      by_cases he : j = key
      · subst he
        rw [Entries.get?_eq_none_iff.2 nodup.1,
          Entries.get?_eq_none_iff.2 (show j ∉ fs.map Prod.fst from hkeys ▸ nodup.1)]
        trivial
      · have rest := h key
        simp only [Entries.get?, he, if_false] at rest
        exact rest

/-- Properties in order are alike if what is known about each key is. -/
theorem alikeProperties_of_get? {es fs : Entries Shape} (he : Entries.Ordered es)
    (hf : Entries.Ordered fs)
    (h : ∀ key, AlikeParts (Entries.get? key es) (Entries.get? key fs)) :
    AlikeProperties es fs := by
  have keys : Entries.keys es = Entries.keys fs := by
    refine List.Pairwise.eq_of_mem_iff he hf fun key => ?_
    have := h key
    rw [← Entries.has_iff_mem_keys, ← Entries.has_iff_mem_keys, Entries.has, Entries.has]
    cases hj : Entries.get? key es <;> cases hk : Entries.get? key fs <;>
      simp_all [AlikeParts]
  exact alikeProperties_of_keys_eq keys he.nodup h

/-! ## Shapes with the same outline -/

/-- Object shapes are alike if the same is required, and what is known about each key has the same
outline. -/
theorem alike_object {f g : Fields Shape}
    (hf : f.Proper ∧ ∀ key s, f.get? key = some s → s.isUnknown = false ∧ s.WellFormed)
    (hg : g.Proper ∧ ∀ key s, g.get? key = some s → s.isUnknown = false ∧ s.WellFormed)
    (h : outlines f = outlines g)
    (inner : ∀ key, ∀ s t : Shape, f.get? key = some s → s.WellFormed → t.WellFormed →
      s.outline = t.outline → Alike s t) : Alike (object f) (object g) := by
  have required : ∀ key, f.isRequired key = g.isRequired key := fun key => by
    rw [← any_outlines, h, any_outlines]
  have parts : ∀ key, AlikeParts (f.get? key) (g.get? key) := by
    intro key
    have hkey := congrFun h key
    rw [outlines, outlines] at hkey
    cases hs : f.get? key with
    | none =>
      cases ht : g.get? key with
      | none => trivial
      | some t => rw [hs, ht] at hkey; cases hkey
    | some s =>
      cases ht : g.get? key with
      | none => rw [hs, ht] at hkey; cases hkey
      | some t =>
        rw [hs, ht, Option.map_some, Option.map_some, Option.some.injEq, Prod.mk.injEq] at hkey
        exact inner key s t hs (hf.2 key s hs).2 (hg.2 key t ht).2 hkey.2
  obtain ⟨frequired, foptional⟩ := f
  obtain ⟨grequired, goptional⟩ := g
  refine ⟨alikeProperties_of_get? hf.1.required hg.1.required fun key => ?_,
    alikeProperties_of_get? hf.1.optional hg.1.optional fun key => ?_⟩
  · have hr := Fields.get?_required (f := ⟨frequired, foptional⟩) key
    have hr' := Fields.get?_required (f := ⟨grequired, goptional⟩) key
    simp only at hr hr'
    rw [hr, hr', required key]
    split
    · exact parts key
    · trivial
  · have ho := Fields.get?_optional hf.1 key
    have ho' := Fields.get?_optional hg.1 key
    simp only at ho ho'
    rw [ho, ho', required key]
    split
    · trivial
    · exact parts key

/-- What is known about one slot is alike if the outlines say the same of it, and shapes inside it with
the same outlines are alike. -/
theorem alikeParts_of_outline {s t : Shape} (hs : s.WellFormed) (ht : t.WellFormed)
    (h : s.outline = t.outline)
    (inner : ∀ s' t' : Shape, sizeOf s' < sizeOf s → s'.WellFormed → t'.WellFormed →
      s'.outline = t'.outline → Alike s' t') (slot : Slot) :
    AlikeParts (s.part? slot) (t.part? slot) := by
  rw [outline_eq, outline_eq, outlineOf, outlineOf, Outline.mk.injEq] at h
  obtain ⟨-, hboolean, hnumber, hstring, harray, hobject⟩ := h
  have ofSlot : ∀ {t u : Shape}, t.part? slot = some u → u.slot? = some slot := slot?_of_partOf?
  cases hp : s.part? slot with
  | none =>
    cases hq : t.part? slot with
    | none => trivial
    | some w =>
      exfalso
      have hw := ofSlot hq
      cases w <;> cases hw <;>
        simp [hp, hq, numbers?, format?, items?, fields?] at *
  | some u =>
    have hu := ofSlot hp
    cases hq : t.part? slot with
    | none =>
      exfalso
      cases u <;> cases hu <;>
        simp [hp, hq, numbers?, format?, items?, fields?] at *
    | some w =>
      have hw := ofSlot hq
      have hu' := hs.part? hp
      have hw' := ht.part? hq
      cases u <;> cases hu <;> cases w <;> cases hw
      · trivial
      · simp only [hp, hq, Option.bind_some, numbers?, Option.some.injEq, Prod.mk.injEq] at hnumber
        exact Interval.alike_of_positions (wellFormed_int.1 hu') (wellFormed_int.1 hw') hnumber.2
      · simp [hp, hq, numbers?] at hnumber
      · simp [hp, hq, numbers?] at hnumber
      · simp only [hp, hq, Option.bind_some, numbers?, Option.some.injEq, Prod.mk.injEq] at hnumber
        exact Interval.alike_of_positions (wellFormed_float.1 hu') (wellFormed_float.1 hw') hnumber.2
      · simp only [hp, hq, Option.bind_some, format?, Option.some.injEq] at hstring
        exact hstring
      · next s' t' =>
        simp only [hp, hq, Option.bind_some, items?, Option.map_some, Option.some.injEq] at harray
        have small : s.knownItems? = some s' := by rw [knownItems?, hp]; rfl
        exact inner s' t' (sizeOf_knownItems?_lt small) (wellFormed_array.1 hu')
          (wellFormed_array.1 hw') harray
      · next f g =>
        simp only [hp, hq, Option.bind_some, fields?, Option.map_some, Option.some.injEq] at hobject
        have known := knownFields_of_part? hp
        refine alike_object (wellFormed_object.1 hu') (wellFormed_object.1 hw') hobject
          fun key s' t' hs' => ?_
        have under : known? key s.knownFields = some s' := by rw [known]; exact hs'
        exact inner s' t' (sizeOf_known?_lt under)

/-- Well-formed shapes with the same outline are alike. -/
theorem alike_of_outline_eq {s t : Shape} (hs : s.WellFormed) (ht : t.WellFormed)
    (h : s.outline = t.outline) : Alike s t := by
  obtain ⟨n, hn⟩ : ∃ n, sizeOf s = n := ⟨_, rfl⟩
  induction n using Nat.strongRecOn generalizing s t with
  | ind n ih =>
    have parts := alikeParts_of_outline hs ht h fun s' t' less hs' ht' h' =>
      ih (sizeOf s') (hn ▸ less) hs' ht' h' rfl
    have null : s.isNullable = t.isNullable := by
      rw [outline_eq, outline_eq] at h
      exact congrArg Outline.null h
    have sparts := parts_alternatives s hs.sound
    have tparts := parts_alternatives t ht.sound
    rw [← rebuild_alternatives hs.sound, ← rebuild_alternatives ht.sound, null]
    exact alike_rebuild _ (alikeAlternatives_of_parts sparts.slots tparts.slots sparts.nodup
      tparts.nodup parts)

/-! ## Runs in another order -/

/-- The order in which values are taken in makes no difference but the order of alternatives and the
sign of zero. -/
theorem alike_of_perm (d : Detectors) {t : Shape} (ht : t.check = none) (canonical : t.Canonical)
    {vs ws : List Json} (h : vs.Perm ws) (hv : ∀ v ∈ vs, v.Canonical) :
    Alike (absorbAll d vs t) (absorbAll d ws t) := by
  have wellFormed : t.WellFormed := ⟨canonical, sound_of_check ht⟩
  have hw : ∀ w ∈ ws, w.Canonical := fun w hw => hv w (h.mem_iff.2 hw)
  refine alike_of_outline_eq (wellFormed_absorbAll d hv wellFormed)
    (wellFormed_absorbAll d hw wellFormed) ?_
  rw [outline_absorbAll d hv wellFormed, outline_absorbAll d hw wellFormed]
  exact h.foldl_eq' (fun v _ w _ c => Outline.absorb_comm d w v c) _

/-- Three values after an array, and in the opposite order. -/
theorem alike_of_perm_reverse :
    (array unknown).check = none ∧ (array unknown).Canonical ∧
    [Json.null, .bool true, .string ""].Perm [.string "", .bool true, .null] ∧
    (∀ v ∈ [Json.null, .bool true, .string ""], v.Canonical) ∧
    Alike (absorbAll .none [.null, .bool true, .string ""] (array unknown))
      (absorbAll .none [.string "", .bool true, .null] (array unknown)) := by
  have checked : (array unknown).check = none := rfl
  have reverse : [Json.null, .bool true, .string ""].Perm [.string "", .bool true, .null] :=
    (List.reverse_perm [Json.null, .bool true, .string ""]).symm
  have canonical : ∀ v ∈ [Json.null, .bool true, .string ""], v.Canonical := by
    simp [Json.Canonical]
  exact ⟨checked, trivial, reverse, canonical,
    alike_of_perm .none checked trivial reverse canonical⟩

end Shape

end JsonShape
