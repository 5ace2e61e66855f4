import JsonShape.Detectors
import JsonShape.Failure
import JsonShape.Schema.Render
import JsonShape.Text.Blank

/-!
# Settings

What a run can be told: the formats to look for, how the schema is rendered, and how documents are
cut into records.
-/

set_option autoImplicit false

namespace JsonShape

/-- What a document of the input is. -/
inductive InputForm where
  /-- One value. -/
  | json
  /-- One value on each line. -/
  | jsonLines
deriving DecidableEq, Repr

namespace InputForm

/-- Both forms. -/
def all : List InputForm := [json, jsonLines]

/-- The name of a form. -/
def name : InputForm → String
  | json => "json"
  | jsonLines => "jsonl"

/-- The form of a name. -/
def ofName? (name : String) : Option InputForm := all.find? fun form => form.name == name

end InputForm

/-- How documents are cut into records. -/
structure InputSettings where
  form : InputForm
  /-- The path to the records inside a document of one value. -/
  recordPath : Option String
  /-- Whether every item of an array is a record, where there is no path. -/
  splitArrays : Bool
deriving DecidableEq, Repr

namespace InputSettings

/-- Every document is one record. -/
def whole : InputSettings := ⟨.json, none, false⟩

instance : Inhabited InputSettings := ⟨whole⟩

end InputSettings

/-- What a run can be told. -/
structure Settings where
  detectors : Detectors
  rendering : RenderOptions
  input : InputSettings
deriving DecidableEq, Repr

namespace Settings

/-- The settings where nothing is told. -/
def standard : Settings := ⟨.all, .bare, .whole⟩

instance : Inhabited Settings := ⟨standard⟩

/-- What is wrong with a record path; lines have none. -/
def pathProblem? (input : InputSettings) : Option String :=
  match input.recordPath with
  | none => none
  | some path =>
    if input.form = .jsonLines then some "record paths only apply to JSON input"
    else if allBlank path then some "must not be empty"
    else none

/-- Settings can be used if their record path can be. -/
def validate (s : Settings) : Except Failure Unit :=
  match pathProblem? s.input with
  | some problem => .error (.setting "input.record_path" problem)
  | none => .ok ()

end Settings

end JsonShape
