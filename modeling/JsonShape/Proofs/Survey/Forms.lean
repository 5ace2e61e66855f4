import JsonShape.Proofs.Json.Compact
import JsonShape.Proofs.Json.Reading
import JsonShape.Proofs.Records.Lines
import JsonShape.Proofs.Survey.Reload

/-!
# Lines and arrays

Values that are written one on a line, with any white space around them and any blank lines between, are
the records of that text (`decode_lines`), and the records of one array of them that is cut up
(`decode_array`). So a survey of the one text is a survey of the other, and the array as it is has an
array of that shape (`ofTexts_lines_array`).
-/

set_option autoImplicit false

namespace JsonShape

/-! ## Lines -/

/-- A line of a text: white space, with a value in it or none. A carriage return at its end is white space
too, and a line break at the end of a text leaves an empty line. -/
structure Line where
  value : Option Json
  before : List Char
  after : List Char
  blank : ∀ c ∈ before ++ after, isBlank c = true ∧ c ≠ '\n'

namespace Line

/-- The characters of a line. -/
def chars (l : Line) : List Char :=
  l.before ++ l.value.elim [] Json.compactChars ++ l.after

/-- A text of lines. -/
def text (lines : List Line) : String := String.ofList (['\n'].intercalate (lines.map chars))

/-- The values on lines. -/
def values (lines : List Line) : List Json := lines.filterMap value

theorem isBlank_before (l : Line) : ∀ c ∈ l.before, isBlank c = true :=
  fun c hc => (l.blank c (List.mem_append_left l.after hc)).1

theorem isBlank_after (l : Line) : ∀ c ∈ l.after, isBlank c = true :=
  fun c hc => (l.blank c (List.mem_append_right l.before hc)).1

/-- No line has a line break in it, since the text of a value has none. -/
theorem newline_not_mem_chars (l : Line) : '\n' ∉ l.chars := by
  intro h
  rw [chars, List.mem_append, List.mem_append] at h
  rcases h with (h | h) | h
  · exact (l.blank '\n' (List.mem_append_left l.after h)).2 rfl
  · cases value : l.value with
    | none =>
      rw [value] at h
      cases h
    | some v =>
      rw [value] at h
      exact absurd (v.visible_of_mem_compactChars '\n' h) (by decide)
  · exact (l.blank '\n' (List.mem_append_right l.before h)).2 rfl

theorem onLine?_chars (l : Line) (read : ∀ v ∈ l.value, Json.read? v.compact = some v) :
    Records.onLine? l.chars = some l.value.toList := by
  rw [Records.onLine?, chars]
  cases value : l.value with
  | none =>
    have trimmed : Trimmed [] := trimmed_of_forall (by simp)
    rw [Option.elim_none, trimBlanks_around l.isBlank_before l.isBlank_after trimmed]
    rfl
  | some v =>
    have full : v.compactChars.isEmpty = false := List.isEmpty_eq_false_iff.2 v.compactChars_ne_nil
    have found : Json.read? (String.ofList v.compactChars) = some v := read v value
    rw [Option.elim_some, trimBlanks_around l.isBlank_before l.isBlank_after v.trimmed_compactChars,
      full, found]
    rfl

theorem fields_text {lines : List Line} (some : lines ≠ []) :
    fields '\n' (text lines).toList = lines.map chars := by
  rw [text, String.toList_ofList]
  apply fields_intercalate
  · rwa [Ne, List.map_eq_nil_iff]
  · intro part hp
    obtain ⟨l, -, rfl⟩ := List.mem_map.1 hp
    exact l.newline_not_mem_chars

end Line

namespace Records

/-- The values on lines are the records of their text. -/
theorem decode_lines {settings : InputSettings} (form : settings.form = .jsonLines) {lines : List Line}
    (read : ∀ v ∈ Line.values lines, Json.read? v.compact = some v) :
    decode settings (Line.text lines) = .ok (Line.values lines) := by
  have each : ∀ l ∈ lines, onLine? l.chars = some l.value.toList := by
    intro l hl
    apply l.onLine?_chars
    intro v hv
    exact read v (List.mem_filterMap.2 ⟨l, hl, hv⟩)
  rw [decode_eq_ofJsonLines form, ofJsonLines_eq_ok_iff]
  by_cases empty : lines = []
  · rw [empty]
    exact ⟨rfl, rfl⟩
  · rw [Line.fields_text empty]
    constructor
    · rw [firstBad?, List.findIdx?_eq_none_iff]
      intro part hp
      obtain ⟨l, hl, rfl⟩ := List.mem_map.1 hp
      rw [each l hl]
      rfl
    · rw [onLines, List.flatMap_map, Line.values, List.filterMap_eq_flatMap_toList]
      apply List.flatMap_congr
      intro l hl
      rw [each l hl, Option.getD_some]

/-- The items of an array are the records of its text, if it is cut up. -/
theorem decode_array {values : List Json} (split : Bool)
    (read : Json.read? (Json.array values).compact = some (.array values)) :
    decode ⟨.json, none, split⟩ (Json.array values).compact =
      .ok (if split then values else [.array values]) := by
  simp only [decode, ofJson, read, ofDocument]

end Records

/-! ## Surveys -/

namespace Survey

theorem ofTexts_singleton (d : Detectors) {settings : InputSettings} {text : String}
    {records : List Json} (h : Records.decode settings text = .ok records) :
    ofTexts d [(settings, text)] = .ok ((start d).observeAll records) := by
  rw [ofTexts, List.mapM_cons, h]
  show Except.ok ((start d).observeAll (records ++ [])) = _
  rw [List.append_nil]

theorem start_observeAll (d : Detectors) (values : List Json) :
    (start d).observeAll values = ⟨d, Shape.absorbAll d values .unknown, .ofNat values.length⟩ := by
  rw [observeAll_eq, start, UInt64.zero_add]

/-- An array that is taken in as one value has an array of the shape of its items. -/
theorem start_observe_array (d : Detectors) (values : List Json) :
    (start d).observeAll [.array values] = ⟨d, .array (Shape.absorbAll d values .unknown), 1⟩ := by
  rw [← Shape.absorbItems_eq_absorbAll]
  rfl

/-- Values whose numbers are read back are the same records on lines and as the items of an array, with no
text refused. So the surveys of the two texts are one, and that of the array as a single record has an array
of their shape. -/
theorem ofTexts_lines_array (d : Detectors) (path : Option String) (split : Bool) (lines : List Line)
    (canonical : ∀ v ∈ Line.values lines, v.Canonical)
    (faithful : ∀ v ∈ Line.values lines, v.Faithful)
    (shallow : ∀ v ∈ Line.values lines, v.nesting ≤ 126) :
    Records.decode ⟨.jsonLines, path, split⟩ (Line.text lines) = .ok (Line.values lines) ∧
    Records.decode ⟨.json, none, true⟩ (Json.array (Line.values lines)).compact =
      .ok (Line.values lines) ∧
    ∃ shape,
      ofTexts d [(⟨.jsonLines, path, split⟩, Line.text lines)] =
        .ok ⟨d, shape, .ofNat (Line.values lines).length⟩ ∧
      ofTexts d [(⟨.json, none, true⟩, (Json.array (Line.values lines)).compact)] =
        .ok ⟨d, shape, .ofNat (Line.values lines).length⟩ ∧
      ofTexts d [(⟨.json, none, false⟩, (Json.array (Line.values lines)).compact)] =
        .ok ⟨d, .array shape, 1⟩ := by
  have one : ∀ v ∈ Line.values lines, Json.read? v.compact = some v := by
    intro v hv
    have fits : v.nesting ≤ Written.maxNesting := Nat.le_succ_of_le (shallow v hv)
    exact Json.read?_compact_of_faithful (canonical v hv) (faithful v hv) fits
  have all : Json.read? (Json.array (Line.values lines)).compact =
      some (.array (Line.values lines)) := by
    have fits : (Json.array (Line.values lines)).nesting ≤ Written.maxNesting :=
      Nat.succ_le_succ (Json.nestingItems_le_iff.2 shallow)
    have ordered : (Json.array (Line.values lines)).Canonical :=
      Json.canonicalItems_iff.2 canonical
    exact Json.read?_compact_of_faithful ordered (Json.faithful_array_iff.2 faithful) fits
  have onLines : Records.decode ⟨.jsonLines, path, split⟩ (Line.text lines) =
      .ok (Line.values lines) := Records.decode_lines rfl one
  have inArray := Records.decode_array true all
  have whole := Records.decode_array false all
  refine ⟨onLines, inArray, Shape.absorbAll d (Line.values lines) .unknown, ?_, ?_, ?_⟩
  · rw [ofTexts_singleton d onLines, start_observeAll]
  · rw [ofTexts_singleton d inArray, if_pos rfl, start_observeAll]
  · rw [ofTexts_singleton d whole, if_neg Bool.false_ne_true, start_observe_array]

/-- A line break in a string, carriage returns, blank lines, and a line break at the end. -/
def mixedLines : List Line :=
  [⟨some (.string "a\nb"), [], ['\r'], by simp [isBlank]⟩, ⟨none, [' '], ['\r'], by simp [isBlank]⟩,
    ⟨none, [], [], by simp [isBlank]⟩, ⟨some (.array [.bool true, .null]), ['\t'], [], by simp [isBlank]⟩,
    ⟨none, [], [], by simp [isBlank]⟩]

theorem ofTexts_lines_array_mixed :
    Line.text mixedLines = "\"a\\nb\"\r\n \r\n\n\t[true,null]\n" ∧
    (Json.array (Line.values mixedLines)).compact = "[\"a\\nb\",[true,null]]" ∧
    Records.decode ⟨.jsonLines, none, false⟩ (Line.text mixedLines) =
      .ok [.string "a\nb", .array [.bool true, .null]] ∧
    ∃ shape,
      ofTexts .all [(⟨.jsonLines, none, false⟩, Line.text mixedLines)] = .ok ⟨.all, shape, 2⟩ ∧
      ofTexts .all [(⟨.json, none, false⟩, (Json.array (Line.values mixedLines)).compact)] =
        .ok ⟨.all, .array shape, 1⟩ := by
  have canonical : ∀ v ∈ Line.values mixedLines, v.Canonical := by
    show ∀ v ∈ [Json.string "a\nb", .array [.bool true, .null]], v.Canonical
    simp [Json.Canonical, Json.CanonicalItems]
  have faithful : ∀ v ∈ Line.values mixedLines, v.Faithful := by decide
  have shallow : ∀ v ∈ Line.values mixedLines, v.nesting ≤ 126 := by decide
  obtain ⟨records, -, shape, onLines, -, whole⟩ :=
    ofTexts_lines_array .all none false mixedLines canonical faithful shallow
  exact ⟨rfl, rfl, records, shape, onLines, whole⟩

end Survey

end JsonShape
