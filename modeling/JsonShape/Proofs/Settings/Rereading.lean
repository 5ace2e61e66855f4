import JsonShape.Proofs.Json.Reading
import JsonShape.Proofs.Settings.Fields
import JsonShape.Proofs.Yaml.Text
import JsonShape.Settings.Yaml

/-!
# Settings read back

Settings that can be used are what their text in YAML is read as, whatever the record path is
(`ofYaml_toYaml`). The text is the lines of three sections, so it is read as a mapping of mappings
(`exists_ofText?_toYaml`), and from those each field is read as what was written.
-/

set_option autoImplicit false

namespace JsonShape

namespace Yaml

variable {es : List Entry}

/-! ## Values of fields -/

/-- The node of a flag. -/
def flagNode (b : Bool) : Yaml := scalar true none (if b then "true" else "false")

@[simp] theorem source_flag?_flagNode (b : Bool) : source.flag? (flagNode b) = some b := by
  cases b <;> rfl

/-- The value of a field, in the line of its name. -/
def fieldEntry (name : String) (value : List Char) (node : Yaml) : Entry :=
  ⟨name.toList, ' ' :: value, node⟩

theorem isRead_field {name : String} {value : List Char} {node : Yaml} {column : Nat}
    (key : isKey name.toList = true) (printable : ∀ c ∈ value, isPrintable c = true)
    (stands : Stands column 2 (' ' :: value) node) : (fieldEntry name value node).IsRead column 2 where
  key := key
  gap _ := rfl
  printable := by simpa [fieldEntry] using ⟨by decide, printable⟩
  value := stands

/-- A word that can be plain, as the value of a field. -/
theorem isRead_word {name : String} {column : Nat} (key : isKey name.toList = true)
    (word : List Char) (plain : canBePlain word = true) (holds : word ≠ []) :
    (fieldEntry name (word ++ ['\n']) (scalar true none (String.ofList word))).IsRead column 2 := by
  refine isRead_field key (fun c hc => ?_) (stands_plain plain holds)
  rcases List.mem_append.1 hc with inside | line
  · exact ((unmarked_of_canBePlain plain).printable c inside).1
  · rw [List.mem_singleton.1 line]
    decide

theorem isRead_flag {name : String} {column : Nat} (key : isKey name.toList = true) (b : Bool) :
    (fieldEntry name (Settings.flagValue b) (flagNode b)).IsRead column 2 := by
  cases b
  · exact isRead_word key "false".toList (by decide) (by decide)
  · exact isRead_word key "true".toList (by decide) (by decide)

theorem isRead_form {name : String} {column : Nat} (key : isKey name.toList = true)
    (form : InputForm) :
    (fieldEntry name (form.name.toList ++ ['\n']) (scalar true none form.name)).IsRead column 2 := by
  cases form
  · exact isRead_word key "json".toList (by decide) (by decide)
  · exact isRead_word key "jsonl".toList (by decide) (by decide)

/-- A text or none, as the value of a field. -/
def optionalValue : Option String → List Char
  | some text => textValue text
  | none => "null\n".toList

theorem exists_isRead_optional {name : String} (key : isKey name.toList = true)
    (text : Option String) :
    ∃ node, (fieldEntry name (optionalValue text) node).IsRead 2 2 ∧
      source.text? node = some text := by
  cases text with
  | none =>
    exact ⟨scalar true none "null", isRead_word key "null".toList (by decide) (by decide), rfl⟩
  | some text =>
    obtain ⟨plain, stands, other⟩ := stands_textValue text
    refine ⟨_, isRead_field key (fun c hc => isPrintable_of_mem_textValue hc) stands, ?_⟩
    cases plain with
    | false => rfl
    | true => simp [source, optionalText?, other rfl]

/-- The members of a mapping of entries are their values under their keys. -/
theorem members?_entries (es : List Entry) :
    members? (mapping (es.map Entry.pair)) =
      some (es.map fun e => (String.ofList e.key, e.value)) := by
  rw [members?]
  induction es with
  | nil => rfl
  | cons e es ih =>
    rw [List.map_cons, List.mapM_cons, ih]
    rfl

/-! ## Sections -/

/-- A section: fields below its name. -/
def sectionEntry (name : String) (es : List Entry) : Entry :=
  ⟨name.toList, '\n' :: linesOf 2 es, mapping (es.map Entry.pair)⟩

theorem isRead_sectionEntry {name : String} {es : List Entry} (key : isKey name.toList = true)
    (holds : es ≠ []) (few : es.length ≤ 9) (read : ∀ e ∈ es, e.IsRead 2 2) :
    (sectionEntry name es).IsRead 0 14 :=
  (isRead_section key holds (by decide) read).mono (by omega)

theorem chars_sectionEntry (name : String) (es : List Entry) :
    (sectionEntry name es).chars 0 = Settings.sectionLines name (es.map (Entry.chars 2)) := by
  rw [Settings.sectionLines, ← List.flatMap_def]
  rfl

/-- Flags as fields. -/
def flagEntries (names : List String) (flags : List Bool) : List Entry :=
  (names.zip flags).map fun e => fieldEntry e.1 (Settings.flagValue e.2) (flagNode e.2)

theorem isRead_flagEntries {names : List String} {column : Nat} {e : Entry}
    (keys : ∀ name ∈ names, isKey name.toList = true) (flags : List Bool)
    (h : e ∈ flagEntries names flags) : e.IsRead column 2 := by
  obtain ⟨field, inside, rfl⟩ := List.mem_map.1 h
  exact isRead_flag (keys _ (List.of_mem_zip inside).1) _

theorem chars_flagEntries (names : List String) (flags : List Bool) :
    (flagEntries names flags).map (Entry.chars 2) =
      (names.zip flags).map fun e => Settings.fieldLine e.1 (Settings.flagValue e.2) := by
  rw [flagEntries, List.map_map]
  rfl

theorem members?_flagEntries (fields names : List String) (flags : List Bool) :
    source.members? fields (mapping ((flagEntries names flags).map Entry.pair)) =
      some (names.zip (flags.map flagNode)) := by
  refine (members?_entries _).trans (congrArg some ?_)
  rw [flagEntries, List.map_map, List.zip_map_right]
  refine List.map_congr_left fun e _ => ?_
  exact Prod.ext String.ofList_toList rfl

end Yaml

namespace Settings

open Yaml

/-- The fields of the input's settings, the record path as a node. -/
def inputEntries (input : InputSettings) (path : Yaml) : List Entry :=
  [fieldEntry "format" (input.form.name.toList ++ ['\n']) (scalar true none input.form.name),
    fieldEntry "record_path" (optionalValue input.recordPath) path,
    fieldEntry "split_arrays" (flagValue input.splitArrays) (flagNode input.splitArrays)]

/-- Settings as sections. -/
def entries (s : Settings) (path : Yaml) : List Entry :=
  [sectionEntry "formats" (flagEntries Detectors.fieldNames s.detectors.flags),
    sectionEntry "emit"
      (flagEntries RenderOptions.fieldNames [s.rendering.document, s.rendering.bounds]),
    sectionEntry "input" (inputEntries s.input path)]

theorem yamlChars_eq (s : Settings) (path : Yaml) : s.yamlChars = linesOf 0 (entries s path) := by
  rw [yamlChars, entries, linesOf, List.flatMap_cons, List.flatMap_cons, List.flatMap_cons,
    List.flatMap_nil, List.append_nil, chars_sectionEntry, chars_sectionEntry, chars_sectionEntry,
    chars_flagEntries, chars_flagEntries, ← List.append_assoc]
  obtain ⟨_, _, ⟨_, path, _⟩⟩ := s
  cases path <;> rfl

theorem isRead_entries {s : Settings} {path : Yaml}
    (h : (fieldEntry "record_path" (optionalValue s.input.recordPath) path).IsRead 2 2) :
    ∀ e ∈ entries s path, e.IsRead 0 14 := by
  have formats : ∀ name ∈ Detectors.fieldNames, isKey name.toList = true := by decide
  have options : ∀ name ∈ RenderOptions.fieldNames, isKey name.toList = true := by decide
  have input : ∀ e ∈ inputEntries s.input path, e.IsRead 2 2 := by
    simp only [inputEntries, List.forall_mem_cons, List.not_mem_nil, false_implies, implies_true,
      and_true]
    exact ⟨isRead_form (by decide) _, h, isRead_flag (by decide) _⟩
  simp only [entries, List.forall_mem_cons, List.not_mem_nil, false_implies, implies_true, and_true]
  refine ⟨?_, ?_, ?_⟩
  · refine isRead_sectionEntry (by decide) (List.cons_ne_nil _ _) ?_ fun e =>
      isRead_flagEntries formats _
    simp [flagEntries, Detectors.fieldNames, Detectors.flags]
  · refine isRead_sectionEntry (by decide) (List.cons_ne_nil _ _) ?_ fun e =>
      isRead_flagEntries options _
    simp [flagEntries, RenderOptions.fieldNames]
  · refine isRead_sectionEntry (by decide) (List.cons_ne_nil _ _) ?_ input
    simp [inputEntries]

/-- The sections are read as the settings. -/
theorem read?_entries {s : Settings} {path : Yaml}
    (h : source.text? path = some s.input.recordPath) :
    read? source (mapping ((entries s path).map Entry.pair)) = some s := by
  have input : InputSettings.read? source (mapping ((inputEntries s.input path).map Entry.pair)) =
      some s.input :=
    InputSettings.read?_eq_some (members?_entries _) rfl h (source_flag?_flagNode _)
  exact read?_eq_some (members?_entries _)
    (Detectors.read?_eq_some source_flag?_flagNode (members?_flagEntries _ _ _))
    (RenderOptions.read?_eq_some source_flag?_flagNode (members?_flagEntries _ _ _)) input

/-- Settings are written as their sections. -/
theorem exists_ofText?_toYaml (s : Settings) :
    ∃ path, source.text? path = some s.input.recordPath ∧
      ofText? s.toYaml = some (mapping ((entries s path).map Entry.pair)) := by
  have key : isKey "record_path".toList = true := by decide
  obtain ⟨path, read, text⟩ := exists_isRead_optional key s.input.recordPath
  refine ⟨path, text, ?_⟩
  have enough : (entries s path).length + 14 ≤ 8 * (linesOf 0 (entries s path)).length := by
    obtain ⟨cs, whole⟩ : ∃ cs, s.yamlChars = 'f' :: 'o' :: 'r' :: cs := ⟨_, rfl⟩
    rw [← yamlChars_eq, whole]
    simp only [entries, List.length_cons, List.length_nil]
    omega
  have holds : entries s path ≠ [] := List.cons_ne_nil _ _
  rw [toYaml, yamlChars_eq s path, ofText?_lines holds (isRead_entries read) enough]

theorem ofText_of_read? {α : Type} {source : Source α} {read : String → Option α} {text : String}
    {v : α} {s : Settings} (holds : allBlank text = false) (document : read text = some v)
    (fields : read? source v = some s) :
    ofText source read text = s.validate.map fun _ => s := by
  rw [ofText, holds, if_neg Bool.false_ne_true, document, Option.bind_some, fields]

/-- What settings are written as is read as the settings, if they can be used, and fails for the same
reason if they cannot. -/
theorem ofYaml_toYaml_eq (s : Settings) : ofYaml s.toYaml = s.validate.map fun _ => s := by
  have holds : allBlank s.toYaml = false := by
    obtain ⟨cs, whole⟩ : ∃ cs, s.yamlChars = 'f' :: cs := ⟨_, rfl⟩
    rw [allBlank, toYaml, String.toList_ofList, whole]
    rfl
  obtain ⟨path, text, document⟩ := exists_ofText?_toYaml s
  exact ofText_of_read? holds document (read?_entries text)

/-! ## Any writer and reader of trees -/

/-- A reader takes back the trees that a writer writes, if they do not nest too deep, and takes a blank
text for a null. -/
structure Inverts (read : String → Option Json) (write : Json → String) : Prop where
  tree : ∀ v : Json, v.IsTree → v.nesting ≤ Written.maxNesting → read (write v) = some v
  blank : ∀ text, allBlank text = true → read text = some .null

theorem ofText_write_eq {read : String → Option Json} {write : Json → String}
    (h : Inverts read write) (s : Settings) :
    ofText Json.source read (write s.toJson) = s.validate.map fun _ => s := by
  have document : read (write s.toJson) = some s.toJson :=
    h.tree _ s.isTree_toJson (by rw [s.nesting_toJson]; decide)
  have holds : allBlank (write s.toJson) = false := by
    by_contra blank
    rw [h.blank _ (Bool.eq_true_of_not_eq_false blank)] at document
    cases document
  exact ofText_of_read? holds document s.read?_toJson

/-- A text of JSON as a tree, its members in the order in which they stand; a blank text is a null. -/
def treeOfText? (text : String) : Option Json :=
  if allBlank text then some .null
  else (Written.ofText? text).bind (Written.json? Written.maxNesting)

theorem faithful_of_isTree {v : Json} (h : v.IsTree) : v.Faithful := by
  induction h with
  | null | bool | string => exact List.forall_mem_nil _
  | object _ _ ih => exact Json.faithful_object_iff.2 ih

theorem allBlank_compact {v : Json} (h : v.IsTree) : allBlank v.compact = false := by
  rw [allBlank, Json.compact, String.toList_ofList]
  cases h with
  | null => rfl
  | bool b => cases b <;> rfl
  | string s => rfl
  | @object members =>
    cases members with
    | nil => rfl
    | cons m members => rfl

theorem inverts_treeOfText? : Inverts treeOfText? Json.compact where
  tree v tree shallow := by
    rw [treeOfText?, allBlank_compact tree, if_neg Bool.false_ne_true, Written.ofText?_compact,
      Option.bind_some, Written.json?_written, if_pos shallow,
      Json.reread?_eq_self_iff.2 (faithful_of_isTree tree)]
  blank text h := if_pos h

/-- Settings that can be used survive being written in YAML: whatever their switches and their record
path, they are what is read back. That is so of any other writer and reader of trees too, if the reader
takes back what the writer writes. -/
theorem ofYaml_toYaml {s : Settings} (h : s.validate = .ok ()) :
    ofYaml s.toYaml = .ok s ∧
      ∀ (write : Json → String) (read : String → Option Json), Inverts read write →
        ofText Json.source read (write s.toJson) = .ok s := by
  refine ⟨?_, fun write read inverts => ?_⟩
  · rw [ofYaml_toYaml_eq, h]
    rfl
  · rw [ofText_write_eq inverts, h]
    rfl

/-- Settings of which the record path has signs of the notation, quotes and breaks. -/
def marked : Settings :=
  ⟨.none, ⟨true, false⟩, ⟨.json, some "- &a 'b': \"c\" #\n  !d | ~\u2028\t", true⟩⟩

theorem ofYaml_toYaml_marked :
    marked.validate = .ok () ∧ Inverts treeOfText? Json.compact ∧
      ofYaml marked.toYaml = .ok marked ∧
      ofText Json.source treeOfText? marked.toJson.compact = .ok marked :=
  ⟨rfl, inverts_treeOfText?, (ofYaml_toYaml rfl).1, (ofYaml_toYaml rfl).2 _ _ inverts_treeOfText?⟩

end Settings

end JsonShape
