import Mathlib.Data.String.Basic
import JsonShape.Proofs.Json.Canonical
import JsonShape.Records

/-!
# Records are in order

Whatever way the settings ask for, the records of a text are canonical (`Records.canonical_of_decode`):
documents are, record paths and queries lead to parts of them, and a length is a number.
-/

set_option autoImplicit false

namespace JsonShape

/-! ## Record paths -/

theorem Json.Canonical.child? {v w : Json} (h : v.Canonical) {name : Option String}
    (hw : v.child? name = some w) : w.Canonical := by
  cases name with
  | none =>
    cases hw
    exact h
  | some key => exact h.get? hw

theorem Json.Canonical.item? {v w : Json} (h : v.Canonical) {index : Int}
    (hw : v.item? index = some w) : w.Canonical := by
  cases v with
  | array items =>
    simp only [Json.item?] at hw
    generalize (if index < 0 then (items.length : Int) + index else index) = place at hw
    split at hw
    · exact h.items (List.mem_of_getElem? hw)
    · cases hw
  | null | bool _ | number _ | string _ | object _ => cases hw

theorem RecordPath.canonical_of_walk {parts : List (List Char)} {v w : Json} (h : v.Canonical)
    (hw : walk parts v = some w) : w.Canonical := by
  induction parts generalizing v with
  | nil =>
    cases hw
    exact h
  | cons part parts ih =>
    rw [walk] at hw
    obtain ⟨step, -, hw⟩ := Option.bind_eq_some_iff.1 hw
    obtain ⟨place, hp, hw⟩ := Option.bind_eq_some_iff.1 hw
    have reached := h.child? hp
    split at hw
    · exact ih reached hw
    · cases hw
      exact reached
    · obtain ⟨item, hi, hw⟩ := Option.bind_eq_some_iff.1 hw
      exact ih (reached.item? hi) hw

theorem RecordPath.canonical_of_mem_recordsAt {place : Option Json} (h : ∀ v ∈ place, v.Canonical)
    {w : Json} (hw : w ∈ recordsAt place) : w.Canonical := by
  unfold recordsAt at hw
  split at hw
  · exact (h _ rfl).items hw
  · rw [List.mem_singleton.1 hw]
    exact h _ rfl
  · cases hw

/-! ## Queries -/

theorem Json.canonical_ofNat (n : Nat) : (ofNat n).Canonical := by
  unfold ofNat
  split <;> trivial

namespace Query

/-- What has been found, if it is a part of the document, is in order. -/
def Found.InOrder (f : Found) : Prop := ∀ v ∈ f.value?, v.Canonical

theorem inOrder_value {v : Json} (h : v.Canonical) : (Found.value v).InOrder := by
  intro w hw
  cases hw
  exact h

theorem inOrder_gap : Found.gap.InOrder := fun _ h => nomatch h

theorem inOrder_of_mem_orGap {values : List Json} (h : ∀ v ∈ values, v.Canonical) {f : Found}
    (hf : f ∈ orGap values) : f.InOrder := by
  unfold orGap at hf
  split at hf
  · rw [List.mem_singleton.1 hf]
    exact inOrder_gap
  · obtain ⟨w, hw, rfl⟩ := List.mem_map.1 hf
    exact inOrder_value (h w hw)

theorem inOrder_of_mem_atValue {step : Json → List Found}
    (h : ∀ v, v.Canonical → ∀ g ∈ step v, g.InOrder) {f : Found} (hf : f.InOrder) {g : Found}
    (hg : g ∈ atValue step f) : g.InOrder := by
  unfold atValue at hg
  split at hg
  · exact h _ (hf _ rfl) g hg
  · rw [List.mem_singleton.1 hg]
    exact inOrder_gap

/-- A step that goes through what has been found, value by value. -/
theorem inOrder_of_mem_flatMap {step : Json → List Found}
    (h : ∀ v, v.Canonical → ∀ g ∈ step v, g.InOrder) {found : List Found}
    (hf : ∀ f ∈ found, f.InOrder) : ∀ g ∈ found.flatMap (atValue step), g.InOrder := by
  intro g hg
  obtain ⟨f, hm, hg⟩ := List.mem_flatMap.1 hg
  exact inOrder_of_mem_atValue h (hf f hm) hg

mutual

theorem canonical_of_mem_descendants : ∀ v : Json, v.Canonical → ∀ w ∈ descendants v, w.Canonical
  | .null, _, _, hw | .bool _, _, _, hw | .number _, _, _, hw | .string _, _, _, hw => nomatch hw
  | .array items, h, w, hw => canonical_of_mem_descendantsOfItems items h w hw
  | .object members, h, w, hw => canonical_of_mem_descendantsOfMembers members h.2 w hw

theorem canonical_of_mem_descendantsOfItems : ∀ items : List Json, Json.CanonicalItems items →
    ∀ w ∈ descendantsOfItems items, w.Canonical
  | [], _, _, hw => nomatch hw
  | v :: rest, h, w, hw => by
    rw [descendantsOfItems, List.mem_cons, List.mem_append] at hw
    rcases hw with he | hv | hr
    · rw [he]
      exact h.1
    · exact canonical_of_mem_descendants v h.1 w hv
    · exact canonical_of_mem_descendantsOfItems rest h.2 w hr

theorem canonical_of_mem_descendantsOfMembers : ∀ members : List (String × Json),
    Json.CanonicalMembers members → ∀ w ∈ descendantsOfMembers members, w.Canonical
  | [], _, _, hw => nomatch hw
  | (_, v) :: rest, h, w, hw => by
    rw [descendantsOfMembers, List.mem_cons, List.mem_append] at hw
    rcases hw with he | hv | hr
    · rw [he]
      exact h.1
    · exact canonical_of_mem_descendants v h.1 w hv
    · exact canonical_of_mem_descendantsOfMembers rest h.2 w hr

end

theorem canonical_of_mem_children {v w : Json} (h : v.Canonical) (hw : w ∈ children v) :
    w.Canonical := by
  cases v with
  | array items => exact h.items hw
  | object members =>
    obtain ⟨m, hm, rfl⟩ := List.mem_map.1 hw
    exact h.members hm
  | null | bool _ | number _ | string _ => cases hw

theorem mem_of_mem_sliceOf {start stop : Int} {step : Nat} {items : List Json} {w : Json}
    (hw : w ∈ sliceOf start stop step items) : w ∈ items := by
  unfold sliceOf at hw
  split at hw
  · obtain ⟨⟨v, i⟩, he, rfl⟩ := List.mem_map.1 hw
    have := List.fst_mem_of_mem_zipIdx (List.mem_filter.1 he).1
    exact List.mem_of_mem_take (List.mem_of_mem_drop this)
  · cases hw

theorem canonical_of_itemOf? {v w : Json} (h : v.Canonical) {i : Nat} (hw : itemOf? i v = some w) :
    w.Canonical := by
  cases v with
  | array items => exact h.items (List.mem_of_getElem? hw)
  | null | bool _ | number _ | string _ | object _ => cases hw

theorem inOrder_lengthOf (counting : Bool) (found : List Found) :
    (lengthOf counting found).InOrder := by
  intro v hv
  unfold lengthOf at hv
  split at hv
  · cases hv
  · split at hv
    · cases hv
    · split at hv <;> cases hv

mutual

/-- A step finds parts of the document. -/
theorem inOrder_of_mem_applyStep {document : Json} (hd : document.Canonical) (counting : Bool)
    {found : List Found} (hf : ∀ f ∈ found, f.InOrder) :
    ∀ (step : Step), ∀ g ∈ applyStep document counting found step, g.InOrder
  | .root, g, hg => by
    rw [applyStep] at hg
    obtain ⟨f, -, rfl⟩ := List.mem_map.1 hg
    exact inOrder_value hd
  | .current steps, g, hg => by
    rw [applyStep] at hg
    obtain ⟨f, hm, hg⟩ := List.mem_flatMap.1 hg
    have alone : ∀ f' ∈ [f], f'.InOrder := by
      intro f' hf'
      rw [List.mem_singleton.1 hf']
      exact hf f hm
    exact inOrder_of_mem_applySteps hd (counts steps) alone steps g hg
  | .key name, g, hg => by
    rw [applyStep] at hg
    refine inOrder_of_mem_flatMap (fun v hv g hg => ?_) hf g hg
    exact inOrder_of_mem_orGap (fun w hw => hv.get? (Option.mem_toList.1 hw)) hg
  | .keys names, g, hg => by
    rw [applyStep] at hg
    obtain ⟨f, hm, hg⟩ := List.mem_flatMap.1 hg
    obtain ⟨name, -, hg⟩ := List.mem_flatMap.1 hg
    refine inOrder_of_mem_atValue (fun v hv g hg => ?_) (hf f hm) hg
    exact inOrder_of_mem_orGap (fun w hw => hv.get? (Option.mem_toList.1 hw)) hg
  | .index i, g, hg => by
    rw [applyStep] at hg
    refine inOrder_of_mem_flatMap (fun v hv g hg => ?_) hf g hg
    exact inOrder_of_mem_orGap
      (fun w hw => canonical_of_itemOf? hv (Option.mem_toList.1 hw)) hg
  | .indexes numbers, g, hg => by
    rw [applyStep] at hg
    obtain ⟨f, hm, hg⟩ := List.mem_flatMap.1 hg
    obtain ⟨n, -, hg⟩ := List.mem_flatMap.1 hg
    refine inOrder_of_mem_atValue (fun v hv g hg => ?_) (hf f hm) hg
    refine inOrder_of_mem_orGap (fun w hw => ?_) hg
    obtain ⟨i, -, hi⟩ := Option.bind_eq_some_iff.1 (Option.mem_toList.1 hw)
    exact canonical_of_itemOf? hv hi
  | .slice start stop step, g, hg => by
    rw [applyStep] at hg
    refine inOrder_of_mem_flatMap (fun v hv g hg => ?_) hf g hg
    split at hg
    · exact inOrder_of_mem_orGap (fun w hw => hv.items (mem_of_mem_sliceOf hw)) hg
    · rw [List.mem_singleton.1 hg]
      exact inOrder_gap
  | .all, g, hg => by
    rw [applyStep] at hg
    refine inOrder_of_mem_flatMap (fun v hv g hg => ?_) hf g hg
    exact inOrder_of_mem_orGap (fun w hw => canonical_of_mem_children hv hw) hg
  | .anywhere name, g, hg => by
    rw [applyStep] at hg
    refine inOrder_of_mem_flatMap (fun v hv g hg => ?_) hf g hg
    refine inOrder_of_mem_orGap (fun w hw => ?_) hg
    obtain ⟨u, hu, hw⟩ := List.mem_filterMap.1 hw
    rcases List.mem_cons.1 hu with he | hu
    · rw [he] at hw
      exact hv.get? hw
    · exact (canonical_of_mem_descendants v hv u hu).get? hw
  | .everything, g, hg => by
    rw [applyStep] at hg
    refine inOrder_of_mem_flatMap (fun v hv g hg => ?_) hf g hg
    exact inOrder_of_mem_orGap (canonical_of_mem_descendants v hv) hg
  | .filter condition, g, hg => by
    -- whatever the condition is, what meets it was there before
    rw [applyStep] at hg
    refine inOrder_of_mem_flatMap (fun v hv g hg => ?_) hf g hg
    split at hg
    · exact inOrder_of_mem_orGap (fun w hw => hv.items (List.mem_filter.1 hw).1) hg
    · refine inOrder_of_mem_orGap (fun w hw => ?_) hg
      rw [List.mem_singleton.1 (List.mem_filter.1 hw).1]
      exact hv
  | .length, g, hg => by
    rw [applyStep] at hg
    rw [List.mem_singleton.1 hg]
    exact inOrder_lengthOf counting found

theorem inOrder_of_mem_applySteps {document : Json} (hd : document.Canonical) (counting : Bool)
    {found : List Found} (hf : ∀ f ∈ found, f.InOrder) :
    ∀ (steps : List Step), ∀ g ∈ applySteps document counting found steps, g.InOrder
  | [], g, hg => by
    rw [applySteps] at hg
    exact hf g hg
  | step :: rest, g, hg => by
    rw [applySteps] at hg
    exact inOrder_of_mem_applySteps hd counting (inOrder_of_mem_applyStep hd counting hf step) rest
      g hg

end

/-- What a query selects is in order. -/
theorem canonical_of_mem_select {document : Json} (hd : document.Canonical) (steps : List Step)
    {v : Json} (hv : v ∈ select steps document) : v.Canonical := by
  obtain ⟨f, hf, hr⟩ := List.mem_filterMap.1 hv
  have start : ∀ f ∈ [Found.value document], f.InOrder := by
    intro f hf
    rw [List.mem_singleton.1 hf]
    exact inOrder_value hd
  have inOrder := inOrder_of_mem_applySteps hd (counts steps) start steps f hf
  cases f with
  | value w =>
    cases hr
    exact inOrder v rfl
  | count n =>
    have length : v = Json.ofNat n := (Option.some.inj hr).symm
    rw [length]
    exact Json.canonical_ofNat n
  | gap => cases hr

end Query

/-! ## Texts -/

namespace Records

theorem canonical_of_ofDocument {settings : InputSettings} {document : Json}
    (hd : document.Canonical) {records : List Json} (h : ofDocument settings document = .ok records) :
    ∀ v ∈ records, v.Canonical := by
  intro v hv
  unfold ofDocument at h
  split at h
  · unfold along at h
    split at h
    · split at h
      · cases h
        exact Query.canonical_of_mem_select hd _ hv
      · cases h
    · cases h
      exact RecordPath.canonical_of_mem_recordsAt
        (fun w hw => RecordPath.canonical_of_walk hd hw) hv
  · cases h
    split at hv
    · exact hd.items hv
    · rw [List.mem_singleton.1 hv]
      exact hd
  · cases h
    rw [List.mem_singleton.1 hv]
    exact hd

theorem canonical_of_ofLines {number : Nat} {lines : List (List Char)} {records : List Json}
    (h : ofLines number lines = .ok records) : ∀ v ∈ records, v.Canonical := by
  induction lines generalizing number records with
  | nil =>
    cases h
    exact fun v hv => nomatch hv
  | cons line lines ih =>
    rw [ofLines] at h
    split at h
    · exact ih h
    · split at h
      · next v hread =>
        cases hl : ofLines (number + 1) lines with
        | error e => rw [hl] at h; cases h
        | ok more =>
          rw [hl] at h
          cases h
          exact List.forall_mem_cons.2 ⟨Json.canonical_of_read? hread, ih hl⟩
      · cases h

/-- The records of a text are in order. -/
theorem canonical_of_decode {settings : InputSettings} {text : String} {records : List Json}
    (h : decode settings text = .ok records) : ∀ v ∈ records, v.Canonical := by
  unfold decode at h
  split at h
  · unfold ofJson at h
    split at h
    · next document hread => exact canonical_of_ofDocument (Json.canonical_of_read? hread) h
    · cases h
  · exact canonical_of_ofLines h

end Records

end JsonShape
