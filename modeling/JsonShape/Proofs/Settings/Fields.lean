import JsonShape.Proofs.Entries.Lookup
import JsonShape.Proofs.Json.Nesting
import JsonShape.Settings.Codec

/-!
# Settings from their fields

Settings are read from whatever notation tells the fields that they were written with: a source that gives
each flag, text and name back gives back the settings (`Settings.read?_eq_some`). JSON is such a source
(`Settings.read?_toJson`), and of JSON settings use trees of flags, texts and nulls only
(`Settings.isTree_toJson`).
-/

set_option autoImplicit false

namespace JsonShape

/-! ## Fields by their places -/

theorem Entries.atMostOne?_of_mem {α : Type} {es : Entries α} {key : String} {v : α}
    (nodup : (keys es).Nodup) (h : (key, v) ∈ es) : atMostOne? key es = some (some v) := by
  have found : (es.filter fun e => e.1 == key) = [(key, v)] := by
    induction es with
    | nil => cases h
    | cons e es ih =>
      obtain ⟨other, nodup⟩ := List.nodup_cons.1 nodup
      rcases List.mem_cons.1 h with rfl | inside
      · have none : ∀ e ∈ es, ¬(e.1 == key) = true := by
          rintro ⟨k, w⟩ he same
          exact other (beq_iff_eq.1 same ▸ mem_keys_of_mem he)
        rw [List.filter_cons_of_pos (by simp), List.filter_eq_nil_iff.2 none]
      · have different : ¬(e.1 == key) = true := fun same =>
          other (beq_iff_eq.1 same ▸ mem_keys_of_mem inside)
        rw [List.filter_cons, if_neg different, ih nodup inside]
  rw [atMostOne?, found]

/-- Of different fields the one at a place is read from the value there. -/
theorem Source.field?_zip {α β : Type} {names : List String} {values : List α} {name : String} {v : α}
    (nodup : names.Nodup) (length : names.length = values.length) (i : Nat)
    (hn : names[i]? = some name) (hv : values[i]? = some v) (read : α → Option β) (standard : β) :
    field? read standard name (names.zip values) = read v := by
  have keys : Entries.keys (names.zip values) = names := List.map_fst_zip (Nat.le_of_eq length)
  have inside : (name, v) ∈ names.zip values :=
    List.mem_of_getElem? (List.getElem?_zip_eq_some.2 ⟨hn, hv⟩)
  rw [field?, Entries.atMostOne?_of_mem (by rwa [keys]) inside]

/-! ## Sections of fields -/

section
variable {α : Type} {source : Source α}

section
variable {node : Bool → α} (flags : ∀ b, source.flag? (node b) = some b)
include flags

/-- Of fields that are flags each is read as its flag. -/
theorem Source.field?_flag {names : List String} {values : List Bool} {name : String} {b : Bool}
    (nodup : names.Nodup) (length : names.length = values.length) (i : Nat)
    (hn : names[i]? = some name) (hb : values[i]? = some b) (standard : Bool) :
    field? source.flag? standard name (names.zip (values.map node)) = some b := by
  have value : (values.map node)[i]? = some (node b) := by
    rw [List.getElem?_map, hb, Option.map_some]
  rw [field?_zip nodup (by rw [length, List.length_map]) i hn value, flags]

theorem Detectors.read?_eq_some {d : Detectors} {v : α}
    (h : source.members? fieldNames v = some (fieldNames.zip (d.flags.map node))) :
    read? source v = some d := by
  have flag (i : Nat) {name : String} {b : Bool} (hn : fieldNames[i]? = some name)
      (hb : d.flags[i]? = some b) :
      Source.field? source.flag? true name (fieldNames.zip (d.flags.map node)) = some b :=
    Source.field?_flag flags (by decide) (by rfl) i hn hb true
  rw [read?, h]
  simp only [Option.bind_eq_bind, Option.bind_some, flag 0 rfl rfl, flag 1 rfl rfl, flag 2 rfl rfl,
    flag 3 rfl rfl, flag 4 rfl rfl, flag 5 rfl rfl, flag 6 rfl rfl, flag 7 rfl rfl, flag 8 rfl rfl]

theorem RenderOptions.read?_eq_some {o : RenderOptions} {v : α}
    (h : source.members? fieldNames v =
      some (fieldNames.zip ([o.document, o.bounds].map node))) :
    read? source v = some o := by
  have flag (i : Nat) {name : String} {b : Bool} (hn : fieldNames[i]? = some name)
      (hb : [o.document, o.bounds][i]? = some b) :
      Source.field? source.flag? false name (fieldNames.zip ([o.document, o.bounds].map node)) =
        some b :=
    Source.field?_flag flags (by decide) (by rfl) i hn hb false
  rw [read?, h]
  simp only [Option.bind_eq_bind, Option.bind_some, flag 0 rfl rfl, flag 1 rfl rfl]

end

theorem InputForm.ofName?_name (form : InputForm) : ofName? form.name = some form := by
  cases form <;> decide

theorem InputSettings.read?_eq_some {s : InputSettings} {v form path split : α}
    (h : source.members? fieldNames v = some (fieldNames.zip [form, path, split]))
    (name : source.name? form = some s.form.name) (text : source.text? path = some s.recordPath)
    (flag : source.flag? split = some s.splitArrays) : read? source v = some s := by
  have field {β : Type} (i : Nat) {name : String} {v : α} (hn : fieldNames[i]? = some name)
      (hv : [form, path, split][i]? = some v) (read : α → Option β) (standard : β) :
      Source.field? read standard name (fieldNames.zip [form, path, split]) = read v :=
    Source.field?_zip (by decide) (by rfl) i hn hv read standard
  rw [read?, h]
  simp only [Option.bind_eq_bind, Option.bind_some, field 0 rfl rfl, field 1 rfl rfl, field 2 rfl rfl,
    name, text, flag, InputForm.ofName?_name]

theorem Settings.read?_eq_some {s : Settings} {v detectors rendering input : α}
    (h : source.members? fieldNames v = some (fieldNames.zip [detectors, rendering, input]))
    (hd : Detectors.read? source detectors = some s.detectors)
    (hr : RenderOptions.read? source rendering = some s.rendering)
    (hi : InputSettings.read? source input = some s.input) : read? source v = some s := by
  have field {β : Type} (i : Nat) {name : String} {v : α} (hn : fieldNames[i]? = some name)
      (hv : [detectors, rendering, input][i]? = some v) (read : α → Option β) (standard : β) :
      Source.field? read standard name (fieldNames.zip [detectors, rendering, input]) = read v :=
    Source.field?_zip (by decide) (by rfl) i hn hv read standard
  rw [read?, h]
  simp only [Option.bind_eq_bind, Option.bind_some, field 0 rfl rfl, field 1 rfl rfl, field 2 rfl rfl,
    hd, hr, hi]

end

/-! ## JSON -/

/-- A tree of nulls, flags, texts and maps of such trees. -/
inductive Json.IsTree : Json → Prop
  | null : IsTree .null
  | bool (b : Bool) : IsTree (.bool b)
  | string (s : String) : IsTree (.string s)
  | object {members : List (String × Json)} (nodup : (Entries.keys members).Nodup)
      (inside : ∀ m ∈ members, IsTree m.2) : IsTree (.object members)

theorem Json.isTree_zip {names : List String} {values : List Json} (nodup : names.Nodup)
    (length : names.length = values.length) (inside : ∀ v ∈ values, v.IsTree) :
    (object (names.zip values)).IsTree := by
  refine .object ?_ fun m hm => inside m.2 (List.of_mem_zip hm).2
  rwa [Entries.keys, List.map_fst_zip (Nat.le_of_eq length)]

theorem Json.isTree_flags {names : List String} (nodup : names.Nodup) (flags : List Bool)
    (length : names.length = flags.length) : (object (names.zip (flags.map .bool))).IsTree := by
  refine isTree_zip nodup (by rw [length, List.length_map]) ?_
  rw [List.forall_mem_map]
  exact fun b _ => .bool b

namespace Settings

theorem read?_toJson (s : Settings) : read? Json.source s.toJson = some s := by
  have flags (b : Bool) : Json.source.flag? (.bool b) = some b := rfl
  have path : Json.source.text? ((s.input.recordPath.map Json.string).getD .null) =
      some s.input.recordPath := by
    cases s.input.recordPath <;> rfl
  exact read?_eq_some rfl (Detectors.read?_eq_some flags rfl) (RenderOptions.read?_eq_some flags rfl)
    (InputSettings.read?_eq_some rfl rfl path rfl)

theorem isTree_toJson (s : Settings) : s.toJson.IsTree := by
  have path : ((s.input.recordPath.map Json.string).getD .null).IsTree := by
    cases s.input.recordPath with
    | none => exact .null
    | some path => exact .string path
  have input : s.input.toJson.IsTree := by
    refine Json.isTree_zip (by decide) (by rfl) ?_
    simp only [List.forall_mem_cons, List.not_mem_nil, false_implies, implies_true, and_true]
    exact ⟨.string _, path, .bool _⟩
  refine Json.isTree_zip (by decide) (by rfl) ?_
  simp only [List.forall_mem_cons, List.not_mem_nil, false_implies, implies_true, and_true]
  exact ⟨Json.isTree_flags (by decide) s.detectors.flags (by rfl),
    Json.isTree_flags (by decide) [s.rendering.document, s.rendering.bounds] (by rfl), input⟩

theorem nesting_toJson (s : Settings) : s.toJson.nesting = 2 := by
  obtain ⟨_, _, ⟨_, path, _⟩⟩ := s
  cases path <;> rfl

end Settings

end JsonShape
