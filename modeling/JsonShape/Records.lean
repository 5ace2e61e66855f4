import JsonShape.Json.Written
import JsonShape.Query.Reader
import JsonShape.RecordPath
import JsonShape.Settings

/-!
# Records

A text of the input is cut into records, the values that a survey takes in. `decode` is the way that
the settings ask for: a document of one value, the records in it found by a path, or a value on each
line.
-/

set_option autoImplicit false

namespace JsonShape

namespace Records

/-! ## One document -/

/-- Whether some bracket is followed by a minus sign. -/
def hasNegative : List Char → Bool
  | [] => false
  | c :: cs => (c == '[' && cs.head? == some '-') || hasNegative cs

/-- Whether a path is a query rather than a record path: it has a star and no negative index. -/
def isQuery (path : String) : Bool := path.toList.contains '*' && !hasNegative path.toList

/-- The records of a document that a path leads to. -/
def along (path : String) (document : Json) : Except Failure (List Json) :=
  if isQuery path then
    match Query.ofText? path with
    | some steps => .ok (Query.select steps document)
    | none => .error (.recordPath "Invalid JSONPath")
  else .ok (RecordPath.recordsAt (RecordPath.find? path document))

/-- The records of a document. -/
def ofDocument (settings : InputSettings) (document : Json) : Except Failure (List Json) :=
  match settings.recordPath, document with
  | some path, _ => along path document
  | none, .array items => .ok (if settings.splitArrays then items else [document])
  | none, _ => .ok [document]

/-- The records of a text that is one document. -/
def ofJson (settings : InputSettings) (text : String) : Except Failure (List Json) :=
  match Json.read? text with
  | some document => ofDocument settings document
  | none => .error (.input "Failed to parse JSON")

/-! ## Lines -/

/-- The records of lines, of which the first has a number; a blank line holds none. -/
def ofLines (number : Nat) : List (List Char) → Except Failure (List Json)
  | [] => .ok []
  | line :: lines =>
    let text := trimBlanks line
    if text.isEmpty then ofLines (number + 1) lines
    else match Json.read? (String.ofList text) with
      | some v => (ofLines (number + 1) lines).map (v :: ·)
      | none => .error (.input ("Failed to parse JSONL at line " ++ Failure.decimal number))

/-- The records of a text with a document on each line. -/
def ofJsonLines (text : String) : Except Failure (List Json) := ofLines 1 (fields '\n' text.toList)

/-- The records of a text. -/
def decode (settings : InputSettings) (text : String) : Except Failure (List Json) :=
  match settings.form with
  | .json => ofJson settings text
  | .jsonLines => ofJsonLines text

end Records

end JsonShape
