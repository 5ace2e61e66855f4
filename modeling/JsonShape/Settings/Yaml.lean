import JsonShape.Settings.Codec
import JsonShape.Yaml.Printer
import JsonShape.Yaml.Reader

/-!
# Settings in YAML

`Settings.ofYaml` reads settings from a text and validates them; `Settings.toYaml` writes them, one
section after another.
-/

set_option autoImplicit false

namespace JsonShape

namespace Yaml

/-- The text that a scalar is. -/
def text? : Yaml → Option String
  | scalar _ _ text => some text
  | _ => none

/-- The tag of YAML's null. -/
def nullTag : String := "tag:yaml.org,2002:null"

/-- A text, or none where a plain scalar stands for null. -/
def optionalText? : Yaml → Option (Option String)
  | scalar true none text => some (if isNull text then none else some text)
  | scalar true (some tag) text =>
    if tag = nullTag then if isNull text && !text.isEmpty then some none else none
    else some (some text)
  | scalar false _ text => some (some text)
  | _ => none

/-- The name of a choice: a scalar, or the tag of a null. -/
def name? : Yaml → Option String
  | scalar _ none text => some text
  | scalar plain (some tag) text =>
    if plain && isNull text && tag.startsWith "!" then some (tag.drop 1).toString else none
  | _ => none

/-- The entries of a mapping, by the texts of their keys; none where nothing is written. -/
def members? : Yaml → Option (Entries Yaml)
  | mapping entries => entries.mapM fun e => (text? e.1).map fun key => (key, e.2)
  | scalar true _ "" => some []
  | _ => none

/-- Settings in YAML. -/
def source : Source Yaml where
  flag?
    | scalar true _ text => flag? text
    | _ => none
  name? := name?
  text? := optionalText?
  members? _ := members?

end Yaml

namespace Settings

/-- The settings that a text holds, if they can be used, where `read` gives the document that a text
is. -/
def ofText {α : Type} (source : Source α) (read : String → Option α) (text : String) :
    Except Failure Settings :=
  if allBlank text then .ok .standard
  else match (read text).bind (read? source) with
    | some settings => settings.validate.map fun _ => settings
    | none => .error .yaml

/-- The settings that a text in YAML holds, if they can be used. -/
def ofYaml (text : String) : Except Failure Settings := ofText Yaml.source Yaml.ofText? text

/-! ## Writing -/

/-- The line of a field, from its name to the end of its value. -/
def fieldLine (name : String) (value : List Char) : List Char :=
  ' ' :: ' ' :: name.toList ++ ':' :: ' ' :: value

/-- A section: its name and the lines of its fields. -/
def sectionLines (name : String) (fields : List (List Char)) : List Char :=
  name.toList ++ ':' :: '\n' :: fields.flatten

/-- A flag as the value of a field. -/
def flagValue (b : Bool) : List Char := (if b then "true\n" else "false\n").toList

/-- The characters of settings in YAML. -/
def yamlChars (s : Settings) : List Char :=
  sectionLines "formats"
      ((Detectors.fieldNames.zip s.detectors.flags).map fun e => fieldLine e.1 (flagValue e.2)) ++
    sectionLines "emit"
      [fieldLine "include_document_wrapper" (flagValue s.rendering.document),
        fieldLine "numeric_bounds" (flagValue s.rendering.bounds)] ++
    sectionLines "input"
      [fieldLine "format" (s.input.form.name.toList ++ ['\n']),
        fieldLine "record_path" (match s.input.recordPath with
          | some path => Yaml.textValue path
          | none => "null\n".toList),
        fieldLine "split_arrays" (flagValue s.input.splitArrays)]

/-- Settings in YAML. -/
def toYaml (s : Settings) : String := String.ofList s.yamlChars

end Settings

end JsonShape
