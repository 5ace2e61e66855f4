import JsonShape.Settings
import JsonShape.Shape.Codec

/-!
# Reading and writing settings

Settings are written as objects of fields. `Settings.read?` reads them from any notation that can
tell flags, texts, names and fields: that is what a `Source` is. A field that is absent keeps its
standard value, and other members are ignored. `Settings.toJson` writes all fields in order.
-/

set_option autoImplicit false

namespace JsonShape

/-- How the values of a notation are told apart where settings are read. -/
structure Source (α : Type) where
  flag? : α → Option Bool
  /-- The name of a choice. -/
  name? : α → Option String
  /-- A text, or explicitly none. -/
  text? : α → Option (Option String)
  /-- The members of an object of which the fields have the given names, in order. -/
  members? : List String → α → Option (Entries α)

namespace Source

variable {α β : Type}

/-- A field that may be absent but not stand twice. -/
def field? (read : α → Option β) (standard : β) (name : String) (members : Entries α) : Option β :=
  match Entries.atMostOne? name members with
  | some none => some standard
  | some (some v) => read v
  | none => none

end Source

/-! ## The names of the fields -/

namespace Detectors

/-- The names of the groups of formats. -/
def fieldNames : List String :=
  ["datetime", "uri", "email", "uuid", "hostname", "ip", "phone", "country", "currency"]

/-- Whether each group is looked for. -/
def flags (d : Detectors) : List Bool :=
  [d.datetime, d.uri, d.email, d.uuid, d.hostname, d.ip, d.phone, d.country, d.currency]

/-- The detectors that a value tells. -/
def read? {α : Type} (source : Source α) (v : α) : Option Detectors := do
  let members ← source.members? fieldNames v
  let flag := fun name => Source.field? source.flag? true name members
  let datetime ← flag "datetime"
  let uri ← flag "uri"
  let email ← flag "email"
  let uuid ← flag "uuid"
  let hostname ← flag "hostname"
  let ip ← flag "ip"
  let phone ← flag "phone"
  let country ← flag "country"
  let currency ← flag "currency"
  some ⟨datetime, uri, email, uuid, hostname, ip, phone, country, currency⟩

/-- Detectors as JSON. -/
def toJson (d : Detectors) : Json := .object (fieldNames.zip (d.flags.map .bool))

end Detectors

namespace RenderOptions

/-- The names of the options. -/
def fieldNames : List String := ["include_document_wrapper", "numeric_bounds"]

/-- The options that a value tells. -/
def read? {α : Type} (source : Source α) (v : α) : Option RenderOptions := do
  let members ← source.members? fieldNames v
  let document ← Source.field? source.flag? false "include_document_wrapper" members
  let bounds ← Source.field? source.flag? false "numeric_bounds" members
  some ⟨document, bounds⟩

/-- Options as JSON. -/
def toJson (o : RenderOptions) : Json :=
  .object (fieldNames.zip [.bool o.document, .bool o.bounds])

end RenderOptions

namespace InputSettings

/-- The names of the fields. -/
def fieldNames : List String := ["format", "record_path", "split_arrays"]

/-- The settings of the input that a value tells. -/
def read? {α : Type} (source : Source α) (v : α) : Option InputSettings := do
  let members ← source.members? fieldNames v
  let form ← Source.field? (fun v => (source.name? v).bind InputForm.ofName?) .json "format" members
  let recordPath ← Source.field? source.text? none "record_path" members
  let splitArrays ← Source.field? source.flag? false "split_arrays" members
  some ⟨form, recordPath, splitArrays⟩

/-- Settings of the input as JSON. -/
def toJson (s : InputSettings) : Json :=
  .object (fieldNames.zip
    [.string s.form.name, (s.recordPath.map Json.string).getD .null, .bool s.splitArrays])

end InputSettings

namespace Settings

/-- The names of the sections. -/
def fieldNames : List String := ["formats", "emit", "input"]

/-- The settings that a value tells. -/
def read? {α : Type} (source : Source α) (v : α) : Option Settings := do
  let members ← source.members? fieldNames v
  let detectors ← Source.field? (Detectors.read? source) .all "formats" members
  let rendering ← Source.field? (RenderOptions.read? source) .bare "emit" members
  let input ← Source.field? (InputSettings.read? source) .whole "input" members
  some ⟨detectors, rendering, input⟩

/-- Settings as JSON. -/
def toJson (s : Settings) : Json :=
  .object (fieldNames.zip [s.detectors.toJson, s.rendering.toJson, s.input.toJson])

end Settings

/-! ## JSON as a source -/

namespace Json

/-- Settings in JSON. Fields may also stand in an array, in order, and the last ones may be left
out; the name of a choice may also be the key of an object that holds null. -/
def source : Source Json where
  flag?
    | .bool b => some b
    | _ => none
  name?
    | .string s => some s
    | .object [(s, .null)] => some s
    | _ => none
  text?
    | .string s => some (some s)
    | .null => some none
    | _ => none
  members? names
    | .object members => some members
    | .array items => if items.length ≤ names.length then some (names.zip items) else none
    | _ => none

end Json

end JsonShape
