import Mathlib.Data.List.Nodup
import Mathlib.Data.String.Basic
import JsonShape.Entries

/-!
# Looking up keys

What each operation on entries does to `Entries.get?`, and that each keeps `Entries.Ordered`.
Entries in order are determined by what is found under the keys (`ext_of_ordered`), so that two ways
to build entries are compared key by key.
-/

set_option autoImplicit false

namespace JsonShape

namespace Entries

variable {α β : Type}

/-! ## Order -/

theorem ordered_nil : Ordered ([] : Entries α) := List.Pairwise.nil

theorem ordered_cons {key : String} {value : α} {es : Entries α} :
    Ordered ((key, value) :: es) ↔ (∀ k ∈ keys es, key < k) ∧ Ordered es := List.pairwise_cons

/-- Whether entries are in order is read off their keys. -/
theorem ordered_of_keys_eq {es : Entries α} {fs : Entries β} (h : keys es = keys fs)
    (ordered : Ordered es) : Ordered fs := by
  unfold Ordered at *
  rwa [← h]

theorem Ordered.nodup {es : Entries α} (h : Ordered es) : (keys es).Nodup :=
  h.imp fun hlt => ne_of_lt hlt

theorem Ordered.filter {es : Entries α} (h : Ordered es) (p : String × α → Bool) :
    Ordered (es.filter p) :=
  h.sublist ((es.filter_sublist (p := p)).map Prod.fst)

/-! ## Members and keys -/

theorem mem_keys_of_mem {es : Entries α} {key : String} {value : α} (h : (key, value) ∈ es) :
    key ∈ keys es := List.mem_map_of_mem (f := Prod.fst) h

theorem sizeOf_lt_of_mem [SizeOf α] {es : Entries α} {e : String × α} (h : e ∈ es) :
    sizeOf e.2 < sizeOf es := by
  have := List.sizeOf_lt_of_mem h
  rw [Prod.mk.sizeOf_spec] at this
  omega

theorem get?_eq_none_iff {es : Entries α} {key : String} : get? key es = none ↔ key ∉ keys es := by
  induction es with
  | nil => simp [get?, keys]
  | cons e es ih =>
    obtain ⟨k, v⟩ := e
    simp only [get?, keys, List.map_cons, List.mem_cons, not_or] at ih ⊢
    split
    · next h => simp [h]
    · next h => rw [ih]; exact ⟨fun hn => ⟨fun he => h he.symm, hn⟩, fun hn => hn.2⟩

theorem has_iff_mem_keys {es : Entries α} {key : String} : has key es = true ↔ key ∈ keys es := by
  unfold has
  rw [Option.isSome_iff_ne_none, ne_eq, get?_eq_none_iff, not_not]

theorem has_eq_false_iff {es : Entries α} {key : String} : has key es = false ↔ key ∉ keys es := by
  rw [← has_iff_mem_keys, Bool.not_eq_true]

theorem mem_of_get? {es : Entries α} {key : String} {value : α} (h : get? key es = some value) :
    (key, value) ∈ es := by
  induction es with
  | nil => simp [get?] at h
  | cons e es ih =>
    obtain ⟨k, v⟩ := e
    rw [get?] at h
    split at h
    · next hk =>
      obtain rfl := Option.some.inj h
      subst hk
      exact List.mem_cons_self
    · exact List.mem_cons_of_mem _ (ih h)

/-- Of entries with different keys, each is found. -/
theorem get?_of_mem {es : Entries α} {key : String} {value : α} (nodup : (keys es).Nodup)
    (h : (key, value) ∈ es) : get? key es = some value := by
  induction es with
  | nil => simp at h
  | cons e es ih =>
    obtain ⟨k, v⟩ := e
    simp only [keys, List.map_cons, List.nodup_cons] at nodup
    rw [get?]
    rcases List.mem_cons.1 h with he | hm
    · obtain ⟨rfl, rfl⟩ := Prod.mk.injEq .. ▸ he
      simp
    · have hne : k ≠ key := fun he => nodup.1 (he ▸ mem_keys_of_mem hm)
      rw [if_neg hne]
      exact ih nodup.2 hm

/-- Entries in order hold the same if the same is found under every key. -/
theorem ext_of_ordered {es fs : Entries α} (he : Ordered es) (hf : Ordered fs)
    (h : ∀ key, get? key es = get? key fs) : es = fs := by
  induction es generalizing fs with
  | nil =>
    cases fs with
    | nil => rfl
    | cons f fs => have := h f.1; simp [get?] at this
  | cons e es ih =>
    obtain ⟨j, v⟩ := e
    cases fs with
    | nil => have := h j; simp [get?] at this
    | cons f fs =>
      obtain ⟨k, w⟩ := f
      obtain ⟨hj, hes⟩ := ordered_cons.1 he
      obtain ⟨hk, hfs⟩ := ordered_cons.1 hf
      -- neither of the two least keys can be less than the other
      have hjk : j = k := by
        rcases lt_trichotomy j k with hlt | heq | hgt
        · have hn : get? j ((k, w) :: fs) = none := by
            rw [get?_eq_none_iff]
            intro hm
            rcases List.mem_cons.1 hm with rfl | hm
            · exact lt_irrefl _ hlt
            · exact lt_asymm hlt (hk j hm)
          have := h j
          rw [hn] at this
          simp [get?] at this
        · exact heq
        · have hn : get? k ((j, v) :: es) = none := by
            rw [get?_eq_none_iff]
            intro hm
            rcases List.mem_cons.1 hm with rfl | hm
            · exact lt_irrefl _ hgt
            · exact lt_asymm hgt (hj k hm)
          have := h k
          rw [hn] at this
          simp [get?] at this
      subst hjk
      have hv := h j
      simp only [get?, if_true, Option.some.injEq] at hv
      subst hv
      congr 1
      refine ih hes hfs fun key => ?_
      have hkey := h key
      simp only [get?] at hkey
      split at hkey
      · next hkj =>
        subst hkj
        rw [get?_eq_none_iff.2 fun hm => lt_irrefl _ (hj _ hm),
          get?_eq_none_iff.2 fun hm => lt_irrefl _ (hk _ hm)]
      · exact hkey

/-! ## Filtering -/

theorem get?_filter_key {es : Entries α} (p : String → Bool) (key : String) :
    get? key (es.filter fun e => p e.1) = if p key then get? key es else none := by
  induction es with
  | nil => simp [get?]
  | cons e es ih =>
    obtain ⟨k, v⟩ := e
    by_cases hk : k = key
    · subst hk
      by_cases hp : p k <;> simp_all [get?]
    · by_cases hp : p k <;> simp_all [get?]

theorem get?_erase (key j : String) (es : Entries α) :
    get? j (erase key es) = if key = j then none else get? j es := by
  rw [erase, get?_filter_key (fun k => k != key)]
  by_cases h : key = j
  · simp [h]
  · simp [h, Ne.symm h]

theorem mem_keys_erase {key j : String} {es : Entries α} :
    j ∈ keys (erase key es) ↔ j ∈ keys es ∧ j ≠ key := by
  rw [← has_iff_mem_keys, ← has_iff_mem_keys, has, has, get?_erase]
  split
  · next same => simp [same]
  · next other => simp [Ne.symm other]

/-! ## Setting -/

theorem get?_insert (key j : String) (value : α) (es : Entries α) :
    get? j (insert key value es) = if key = j then some value else get? j es := by
  induction es with
  | nil => simp [insert, get?]
  | cons e es ih =>
    obtain ⟨k, v⟩ := e
    rw [insert]
    split
    · simp [get?]
    · split
      · next hk => subst hk; by_cases hj : k = j <;> simp [get?, hj]
      · next hk =>
        rw [get?, ih, get?]
        by_cases hj : key = j
        · subst hj; simp [hk]
        · simp [hj]

theorem mem_keys_insert {key j : String} {value : α} {es : Entries α} :
    j ∈ keys (insert key value es) ↔ key = j ∨ j ∈ keys es := by
  rw [← has_iff_mem_keys, ← has_iff_mem_keys, has, has, get?_insert]
  split <;> simp_all

theorem ordered_insert {key : String} {value : α} {es : Entries α} (h : Ordered es) :
    Ordered (insert key value es) := by
  induction es with
  | nil => simp [insert, Ordered, keys]
  | cons e es ih =>
    obtain ⟨k, v⟩ := e
    obtain ⟨hk, hes⟩ := ordered_cons.1 h
    rw [insert]
    split
    · next hlt =>
      refine ordered_cons.2 ⟨fun j hj => ?_, h⟩
      rcases List.mem_cons.1 hj with rfl | hj
      · exact hlt
      · exact lt_trans hlt (hk j hj)
    · next hnlt =>
      split
      · next heq => subst heq; exact ordered_cons.2 ⟨hk, hes⟩
      · next hne =>
        refine ordered_cons.2 ⟨fun j hj => ?_, ih hes⟩
        rcases mem_keys_insert.1 hj with rfl | hj
        · exact lt_of_le_of_ne (not_lt.1 hnlt) hne
        · exact hk j hj

theorem erase_insert (key : String) (value : α) (es : Entries α) :
    erase key (insert key value es) = erase key es := by
  induction es with
  | nil => simp [insert, erase]
  | cons e es ih =>
    rw [insert]
    split
    · simp [erase]
    · split
      · next same => simp [erase, same]
      · rw [erase, erase, List.filter_cons, List.filter_cons]
        rw [erase, erase] at ih
        rw [ih]

theorem erase_eq_self {key : String} {es : Entries α} (h : key ∉ keys es) : erase key es = es :=
  List.filter_eq_self.2 fun _ he => bne_iff_ne.2 fun same => h (same ▸ List.mem_map_of_mem he)

theorem insert_insert (key : String) (value value' : α) (es : Entries α) :
    insert key value' (insert key value es) = insert key value' es := by
  induction es with
  | nil => simp [insert]
  | cons e es ih =>
    obtain ⟨k, v⟩ := e
    by_cases before : key < k
    · simp [insert, before]
    · by_cases same : k = key
      · simp [insert, same]
      · simp [insert, before, same, ih]

theorem mem_of_mem_insert {key : String} {value : α} {es : Entries α} {e : String × α}
    (h : e ∈ insert key value es) : e = (key, value) ∨ e ∈ es := by
  induction es with
  | nil => exact .inl (List.mem_singleton.1 h)
  | cons f es ih =>
    obtain ⟨k, v⟩ := f
    rw [insert] at h
    split at h
    · exact List.mem_cons.1 h
    · split at h
      · exact (List.mem_cons.1 h).imp_right (List.mem_cons_of_mem _)
      · rcases List.mem_cons.1 h with he | hm
        · exact .inr (he ▸ List.mem_cons_self)
        · exact (ih hm).imp_right (List.mem_cons_of_mem _)

/-! ## Changing -/

theorem keys_update (key : String) (change : α → α) (es : Entries α) :
    keys (update key change es) = keys es := by
  induction es with
  | nil => rfl
  | cons e es ih =>
    obtain ⟨k, v⟩ := e
    rw [update]
    split
    · rfl
    · simpa [keys] using ih

theorem get?_update (key j : String) (change : α → α) (es : Entries α) :
    get? j (update key change es) = if key = j then (get? j es).map change else get? j es := by
  induction es with
  | nil => simp [update, get?]
  | cons e es ih =>
    obtain ⟨k, v⟩ := e
    rw [update]
    split
    · next hk => subst hk; by_cases hj : k = j <;> simp [get?, hj]
    · next hk =>
      rw [get?, ih, get?]
      by_cases hj : key = j
      · subst hj; simp [hk]
      · simp [hj]

theorem Ordered.update {es : Entries α} (h : Ordered es) (key : String) (change : α → α) :
    Ordered (update key change es) :=
  ordered_of_keys_eq (keys_update key change es).symm h

/-! ## Joining -/

theorem Ordered.union {es : Entries α} (h : Ordered es) (more : Entries α) :
    Ordered (union es more) := by
  unfold Entries.union
  induction more generalizing es with
  | nil => exact h
  | cons e more ih => exact ih (ordered_insert h)

/-- Where both have a key, the second one's value stands. -/
theorem get?_union {es more : Entries α} (nodup : (keys more).Nodup) (key : String) :
    get? key (union es more) = (get? key more).or (get? key es) := by
  unfold union
  induction more generalizing es with
  | nil => simp [get?]
  | cons e more ih =>
    obtain ⟨k, v⟩ := e
    simp only [keys, List.map_cons, List.nodup_cons] at nodup
    rw [List.foldl_cons, ih nodup.2, get?_insert, get?]
    split
    · next hk =>
      subst hk
      rw [get?_eq_none_iff.2 nodup.1]
      simp
    · rfl

theorem mem_keys_union {es more : Entries α} {key : String} :
    key ∈ keys (union es more) ↔ key ∈ keys es ∨ key ∈ keys more := by
  unfold union
  induction more generalizing es with
  | nil => simp [keys]
  | cons e more ih =>
    rw [List.foldl_cons, ih, mem_keys_insert, keys, keys, keys, List.map_cons, List.mem_cons]
    tauto

theorem mem_of_mem_union {es more : Entries α} {e : String × α} (h : e ∈ union es more) :
    e ∈ es ∨ e ∈ more := by
  unfold union at h
  induction more generalizing es with
  | nil => exact .inl h
  | cons f more ih =>
    rcases ih h with hi | hm
    · rcases mem_of_mem_insert hi with he | hes
      · exact .inr (he ▸ List.mem_cons_self)
      · exact .inl hes
    · exact .inr (List.mem_cons_of_mem f hm)

theorem mem_of_mem_ofList {pairs : List (String × α)} {e : String × α} (h : e ∈ ofList pairs) :
    e ∈ pairs :=
  (mem_of_mem_union h).resolve_left List.not_mem_nil

theorem ordered_ofList (pairs : List (String × α)) : Ordered (ofList pairs) :=
  ordered_nil.union pairs

theorem get?_ofList {pairs : List (String × α)} (nodup : (keys pairs).Nodup) (key : String) :
    get? key (ofList pairs) = get? key pairs := by
  rw [ofList, get?_union nodup]
  cases get? key pairs <;> rfl

theorem mem_keys_ofList {pairs : List (String × α)} {key : String} :
    key ∈ keys (ofList pairs) ↔ key ∈ keys pairs := by
  rw [ofList, mem_keys_union]
  simp [keys]

/-- A key for each of some keys, with a value that depends on it. -/
theorem get?_map_key {ks : List String} (f : String → α) (key : String) :
    get? key (ks.map fun k => (k, f k)) = if key ∈ ks then some (f key) else none := by
  induction ks with
  | nil => rfl
  | cons k ks ih =>
    rw [List.map_cons, get?, ih]
    by_cases h : k = key
    · subst h; simp
    · have h' : ¬ key = k := fun he => h he.symm
      simp [h, h']

theorem keys_map_key {ks : List String} (f : String → α) : keys (ks.map fun k => (k, f k)) = ks := by
  simp [keys, Function.comp_def]

/-- Pairs in order are put in order as they are. -/
theorem ofList_eq_self {pairs : List (String × α)} (h : Ordered pairs) : ofList pairs = pairs :=
  ext_of_ordered (ordered_ofList pairs) h fun key => get?_ofList h.nodup key

/-! ## Pairs in another order -/

theorem get?_eq_some_iff {es : Entries α} {key : String} {value : α} (nodup : (keys es).Nodup) :
    get? key es = some value ↔ (key, value) ∈ es :=
  ⟨mem_of_get?, get?_of_mem nodup⟩

/-- Putting pairs in order only moves them, if no key comes twice. -/
theorem ofList_perm {pairs : List (String × α)} (nodup : (keys pairs).Nodup) :
    (ofList pairs).Perm pairs := by
  have ordered := ordered_ofList pairs
  refine (List.perm_ext_iff_of_nodup (List.Nodup.of_map _ ordered.nodup)
    (List.Nodup.of_map _ nodup)).2 fun e => ?_
  rw [← get?_eq_some_iff ordered.nodup, get?_ofList nodup, get?_eq_some_iff nodup]

theorem ofList_eq_of_perm {es fs : List (String × α)} (nodup : (keys es).Nodup) (h : es.Perm fs) :
    ofList es = ofList fs := by
  have nodup' : (keys fs).Nodup := (h.map Prod.fst).nodup nodup
  refine ext_of_ordered (ordered_ofList es) (ordered_ofList fs) fun key => Option.ext fun value => ?_
  rw [get?_ofList nodup, get?_ofList nodup', get?_eq_some_iff nodup, get?_eq_some_iff nodup',
    h.mem_iff]

/-! ## Values changed -/

theorem keys_mapValues (change : α → β) (es : Entries α) : keys (mapValues change es) = keys es := by
  simp [keys, mapValues, Function.comp_def]

theorem get?_mapValues (change : α → β) (key : String) (es : Entries α) :
    get? key (mapValues change es) = (get? key es).map change := by
  induction es with
  | nil => rfl
  | cons e es ih =>
    change get? key ((e.1, change e.2) :: mapValues change es) = _
    rw [get?, get?, ih]
    split <;> rfl

theorem has_mapValues (change : α → β) (key : String) (es : Entries α) :
    has key (mapValues change es) = has key es := by
  rw [has, has, get?_mapValues, Option.isSome_map]

theorem mapValues_filter_key (change : α → β) (p : String → Bool) (es : Entries α) :
    mapValues change (es.filter fun e => p e.1) =
      (mapValues change es).filter fun e => p e.1 := by
  simp [mapValues, List.filter_map, Function.comp_def]

theorem mapValues_insert (change : α → β) (key : String) (value : α) (es : Entries α) :
    mapValues change (insert key value es) = insert key (change value) (mapValues change es) := by
  induction es with
  | nil => rfl
  | cons e es ih =>
    change _ = insert key (change value) ((e.1, change e.2) :: mapValues change es)
    rw [insert, insert]
    split
    · rfl
    · split
      · rfl
      · rw [← ih]
        rfl

theorem mapValues_update {change : α → β} {widen : α → α} {widen' : β → β}
    (h : ∀ a, change (widen a) = widen' (change a)) (key : String) (es : Entries α) :
    mapValues change (update key widen es) = update key widen' (mapValues change es) := by
  induction es with
  | nil => rfl
  | cons e es ih =>
    change _ = update key widen' ((e.1, change e.2) :: mapValues change es)
    rw [update, update]
    split
    · rw [← h]
      rfl
    · rw [← ih]
      rfl

theorem mapValues_union (change : α → β) (es more : Entries α) :
    mapValues change (union es more) = union (mapValues change es) (mapValues change more) := by
  induction more generalizing es with
  | nil => rfl
  | cons e more ih =>
    change mapValues change (union (insert e.1 e.2 es) more) = _
    rw [ih, mapValues_insert]
    rfl

end Entries

end JsonShape
