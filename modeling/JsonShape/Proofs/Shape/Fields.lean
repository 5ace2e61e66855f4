import Mathlib.Data.String.Basic
import JsonShape.Proofs.Shape.Slots

/-!
# Taking in an object, key by key

After an object has come, a key that it has is known as before with its value taken in, a key that it
lacks is known as before, and a key is required if it was and the object has it (`get?_takeIn`,
`isRequired_takeIn`). The two groups stay in order and apart (`proper_takeIn`), and proper fields are
determined by what is known about each key (`Fields.ext_of_proper`).
-/

set_option autoImplicit false

namespace JsonShape

namespace Fields

/-! ## Proper fields -/

section
variable {α : Type}

/-- The keys of both groups are in order, and no key is in both. -/
structure Proper (f : Fields α) : Prop where
  required : Entries.Ordered f.required
  optional : Entries.Ordered f.optional
  apart : ∀ key ∈ Entries.keys f.required, key ∉ Entries.keys f.optional

theorem get?_of_mem_required {f : Fields α} (h : f.Proper) {key : String} {a : α}
    (hm : (key, a) ∈ f.required) : f.get? key = some a := by
  rw [get?, Entries.get?_of_mem h.required.nodup hm, Option.some_or]

theorem get?_of_mem_optional {f : Fields α} (h : f.Proper) {key : String} {a : α}
    (hm : (key, a) ∈ f.optional) : f.get? key = some a := by
  have hn : key ∉ Entries.keys f.required := fun hr =>
    h.apart key hr (Entries.mem_keys_of_mem hm)
  rw [get?, Entries.get?_eq_none_iff.2 hn, Option.none_or,
    Entries.get?_of_mem h.optional.nodup hm]

theorem mem_of_get? {f : Fields α} {key : String} {a : α} (h : f.get? key = some a) :
    (key, a) ∈ f.required ∨ (key, a) ∈ f.optional := by
  rw [get?, Option.or_eq_some_iff] at h
  rcases h with h | ⟨-, h⟩
  · exact .inl (Entries.mem_of_get? h)
  · exact .inr (Entries.mem_of_get? h)

theorem sizeOf_lt_of_get? {f : Fields Shape} {key : String} {t : Shape} (h : f.get? key = some t) :
    sizeOf t < sizeOf f := by
  obtain ⟨required, optional⟩ := f
  rw [mk.sizeOf_spec]
  rcases mem_of_get? h with hm | hm
  · have : sizeOf t < sizeOf required := Entries.sizeOf_lt_of_mem hm
    omega
  · have : sizeOf t < sizeOf optional := Entries.sizeOf_lt_of_mem hm
    omega

/-- A property of all that is known about keys is one of both groups. -/
theorem forall_get?_iff {f : Fields α} (h : f.Proper) (P : String → α → Prop) :
    (∀ key a, f.get? key = some a → P key a) ↔
      (∀ e ∈ f.required, P e.1 e.2) ∧ (∀ e ∈ f.optional, P e.1 e.2) := by
  constructor
  · intro hP
    exact ⟨fun e he => hP e.1 e.2 (get?_of_mem_required h he),
      fun e he => hP e.1 e.2 (get?_of_mem_optional h he)⟩
  · rintro ⟨hr, ho⟩ key a hg
    rcases mem_of_get? hg with hm | hm
    · exact hr _ hm
    · exact ho _ hm

theorem get?_required {f : Fields α} (key : String) :
    Entries.get? key f.required = if f.isRequired key then f.get? key else none := by
  unfold isRequired get? Entries.has
  cases Entries.get? key f.required <;> simp

theorem get?_optional {f : Fields α} (h : f.Proper) (key : String) :
    Entries.get? key f.optional = if f.isRequired key then none else f.get? key := by
  unfold isRequired
  by_cases hr : Entries.has key f.required = true
  · rw [if_pos hr]
    exact Entries.get?_eq_none_iff.2 (h.apart key (Entries.has_iff_mem_keys.1 hr))
  · rw [if_neg hr, get?]
    unfold Entries.has at hr
    cases hg : Entries.get? key f.required with
    | none => rfl
    | some a => simp [hg] at hr

/-- The groups being apart, it does not matter in which one a key is looked up first. -/
theorem get?_eq_or_required {f : Fields α} (h : f.Proper) (key : String) :
    f.get? key = (Entries.get? key f.optional).or (Entries.get? key f.required) := by
  rw [get?_optional h, get?_required]
  split <;> simp

/-- Proper fields hold the same if the same is known about every key. -/
theorem ext_of_proper {f g : Fields α} (hf : f.Proper) (hg : g.Proper)
    (hget : ∀ key, f.get? key = g.get? key)
    (hreq : ∀ key, f.isRequired key = g.isRequired key) : f = g := by
  have hr : f.required = g.required := Entries.ext_of_ordered hf.required hg.required fun key => by
    rw [get?_required, get?_required, hget, hreq]
  have ho : f.optional = g.optional := Entries.ext_of_ordered hf.optional hg.optional fun key => by
    rw [get?_optional hf, get?_optional hg, hget, hreq]
  cases f
  cases g
  simp_all

theorem isRequired_iff {f : Fields α} {key : String} :
    f.isRequired key = true ↔ key ∈ Entries.keys f.required := Entries.has_iff_mem_keys

theorem isSome_get?_iff {f : Fields α} {key : String} : (f.get? key).isSome = true ↔
    key ∈ Entries.keys f.required ∨ key ∈ Entries.keys f.optional := by
  rw [get?, Option.isSome_or, Bool.or_eq_true]
  exact or_congr Entries.has_iff_mem_keys Entries.has_iff_mem_keys

theorem isSome_get?_of_isRequired {f : Fields α} {key : String} (h : f.isRequired key = true) :
    (f.get? key).isSome = true := isSome_get?_iff.2 (.inl (isRequired_iff.1 h))

end

/-! ## Keys that an object lacks -/

section
variable {β : Type} {members : Entries β} {f : Fields Shape}

theorem get?_retire (h : Entries.Ordered f.required) (key : String) :
    (f.retire members).get? key = f.get? key := by
  have nodup : (Entries.keys (f.required.filter fun e => !Entries.has e.1 members)).Nodup :=
    (h.filter _).nodup
  simp only [get?, retire]
  rw [Entries.get?_union nodup, Entries.get?_filter_key (fun k => !Entries.has k members),
    Entries.get?_filter_key (fun k => Entries.has k members)]
  cases Entries.has key members <;> simp

theorem isRequired_retire (key : String) :
    (f.retire members).isRequired key = (f.isRequired key && Entries.has key members) := by
  unfold isRequired retire Entries.has
  simp only
  rw [Entries.get?_filter_key (fun k => (Entries.get? k members).isSome)]
  cases (Entries.get? key members).isSome <;> simp

theorem Proper.retire (h : f.Proper) : (f.retire members).Proper where
  required := h.required.filter _
  optional := h.optional.union _
  apart := by
    intro key hr ho
    have hreq : (f.retire members).isRequired key = true := Entries.has_iff_mem_keys.2 hr
    rw [isRequired_retire, Bool.and_eq_true] at hreq
    have hopt : Entries.has key (f.retire members).optional = true :=
      Entries.has_iff_mem_keys.2 ho
    simp only [Fields.retire] at hopt
    rw [Entries.has, Entries.get?_union (h.required.filter _).nodup,
      Entries.get?_filter_key (fun k => !Entries.has k members), hreq.2,
      Entries.get?_eq_none_iff.2 (h.apart key (Entries.has_iff_mem_keys.1 hreq.1))] at hopt
    cases hopt

end

/-! ## Keys that an object has -/

section
variable {f : Fields Shape} {key : String} {widen : Shape → Shape}

theorem get?_change (j : String) :
    (f.change key widen).get? j =
      if key = j then some (widen ((f.get? key).getD .unknown)) else f.get? j := by
  unfold change Entries.has
  cases hr : Entries.get? key f.required with
  | some t =>
    simp only [Option.isSome_some, if_true, get?, Entries.get?_update]
    by_cases hj : key = j
    · subst hj; simp [hr]
    · simp [hj]
  | none =>
    simp only [Option.isSome_none, Bool.false_eq_true, if_false]
    cases ho : Entries.get? key f.optional with
    | some t =>
      simp only [Option.isSome_some, if_true, get?, Entries.get?_update]
      by_cases hj : key = j
      · subst hj; simp [hr, ho]
      · simp [hj]
    | none =>
      simp only [Option.isSome_none, Bool.false_eq_true, if_false, get?, Entries.get?_insert]
      by_cases hj : key = j
      · subst hj; simp [hr, ho]
      · simp [hj]

theorem isRequired_change (j : String) :
    (f.change key widen).isRequired j = f.isRequired j := by
  unfold change
  split
  · unfold isRequired Entries.has
    simp only [Entries.get?_update]
    split <;> simp
  · split <;> rfl

theorem Proper.change (h : f.Proper) : (f.change key widen).Proper := by
  unfold Fields.change
  split
  · exact ⟨h.required.update _ _, h.optional, by rw [Entries.keys_update]; exact h.apart⟩
  · next hr =>
    rw [Entries.has_iff_mem_keys] at hr
    split
    · exact ⟨h.required, h.optional.update _ _, by
        simp only [Entries.keys_update]; exact h.apart⟩
    · refine ⟨h.required, Entries.ordered_insert h.optional, fun k hk ho => ?_⟩
      rcases Entries.mem_keys_insert.1 ho with rfl | ho
      · exact hr hk
      · exact h.apart k hk ho

end

end Fields

namespace Shape

variable (d : Detectors)

theorem get?_absorbMembers {members : List (String × Json)} (nodup : (Entries.keys members).Nodup)
    (f : Fields Shape) (key : String) :
    (absorbMembers d members f).get? key =
      match Entries.get? key members with
      | some v => some (absorb d v ((f.get? key).getD unknown))
      | none => f.get? key := by
  induction members generalizing f with
  | nil => rfl
  | cons m members ih =>
    obtain ⟨k, v⟩ := m
    simp only [Entries.keys, List.map_cons, List.nodup_cons] at nodup
    rw [absorbMembers, ih nodup.2, Fields.get?_change, Entries.get?]
    by_cases hk : k = key
    · subst hk
      rw [Entries.get?_eq_none_iff.2 nodup.1]
      simp
    · simp [hk]

theorem isRequired_absorbMembers (members : List (String × Json)) (f : Fields Shape)
    (key : String) : (absorbMembers d members f).isRequired key = f.isRequired key := by
  induction members generalizing f with
  | nil => rfl
  | cons m members ih =>
    rw [absorbMembers, ih, Fields.isRequired_change]

theorem proper_absorbMembers (members : List (String × Json)) {f : Fields Shape} (h : f.Proper) :
    (absorbMembers d members f).Proper := by
  induction members generalizing f with
  | nil => exact h
  | cons m members ih => exact ih h.change

theorem keys_shapesOf (members : List (String × Json)) :
    Entries.keys (shapesOf d members) = Entries.keys members := by
  induction members with
  | nil => rfl
  | cons m members ih => simpa [shapesOf, Entries.keys] using ih

theorem get?_shapesOf (members : List (String × Json)) (key : String) :
    Entries.get? key (shapesOf d members) =
      (Entries.get? key members).map fun v => absorb d v unknown := by
  induction members with
  | nil => rfl
  | cons m members ih =>
    obtain ⟨k, v⟩ := m
    rw [shapesOf, Entries.get?, Entries.get?, ih]
    split <;> rfl

/-! ## Objects -/

/-- What is known about keys once an object has come, given what was known before. -/
def takeIn (members : List (String × Json)) : Option (Fields Shape) → Fields Shape
  | some f => absorbMembers d members (f.retire members)
  | none => ⟨shapesOf d members, []⟩

/-- What has been known about a key. -/
def known? (key : String) (f : Option (Fields Shape)) : Option Shape := f.bind (·.get? key)

variable {members : List (String × Json)} {f : Option (Fields Shape)}

theorem proper_takeIn (ordered : Entries.Ordered members) (h : ∀ g ∈ f, g.Proper) :
    (takeIn d members f).Proper := by
  cases f with
  | some f => exact proper_absorbMembers d members (h f rfl).retire
  | none =>
    exact ⟨Entries.ordered_of_keys_eq (keys_shapesOf d members).symm ordered, Entries.ordered_nil,
      by simp [takeIn, Entries.keys]⟩

/-- A key is known as before, with the value taken in that the object has under it. -/
theorem get?_takeIn (ordered : Entries.Ordered members) (h : ∀ g ∈ f, g.Proper) (key : String) :
    (takeIn d members f).get? key =
      match Entries.get? key members with
      | some v => some (absorb d v ((known? key f).getD unknown))
      | none => known? key f := by
  cases f with
  | some f =>
    rw [takeIn, get?_absorbMembers d ordered.nodup, Fields.get?_retire (h f rfl).required]
    rfl
  | none =>
    simp only [takeIn, Fields.get?, get?_shapesOf, known?, Entries.get?, Option.or_none]
    cases Entries.get? key members <;> rfl

/-- A key is required if every object before had it and this one has it too. -/
theorem isRequired_takeIn (key : String) :
    (takeIn d members f).isRequired key =
      (Entries.has key members && f.all fun g => g.isRequired key) := by
  cases f with
  | some f =>
    rw [takeIn, isRequired_absorbMembers, Fields.isRequired_retire, Bool.and_comm]
    rfl
  | none =>
    simp only [takeIn, Fields.isRequired, Entries.has, get?_shapesOf, Option.isSome_map,
      Option.all_none, Bool.and_true]

end Shape

end JsonShape
