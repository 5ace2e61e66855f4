import JsonShape.CommandLine
import JsonShape.Disk
import JsonShape.Records
import JsonShape.Settings.Yaml
import JsonShape.Survey

/-!
# Runs

`Invocation.run` does what has been asked for, on any `Disk`, and gives the text of the output. The
output is written at the end, after a snapshot has been saved.
-/

set_option autoImplicit false

namespace JsonShape

namespace Run

variable {m : Type → Type} [Monad m]

/-! ## Reading -/

/-- The text of a file. -/
def readText (disk : Disk m) (path : String) : ExceptT Failure m String := do
  match ← disk.look path with
  | .missing => throw (.fileNotFound path)
  | .unreadable => throw .fileAccess
  | .text contents => pure contents

/-- The settings that are kept in a file, or the standard ones. -/
def readSettings (disk : Disk m) (path : Option String) : ExceptT Failure m Settings := do
  match path with
  | none => pure .standard
  | some path =>
    match ← disk.look path with
    | .missing => throw (.fileNotFound path)
    | .unreadable => throw (.configuration "Failed to read config file")
    | .text contents => ExceptT.mk (pure (Settings.ofYaml contents))

/-- A survey that goes on from the snapshot in a file. -/
def resume (disk : Disk m) (detectors : Detectors) (path : String) : ExceptT Failure m Survey := do
  let text ← readText disk path
  ExceptT.mk (pure ((Snapshot.ofText text).bind (Survey.resume detectors)))

/-! ## Taking in documents -/

/-- A survey with the records of a text that comes from a place. -/
def takeIn (settings : InputSettings) (place text : String) (survey : Survey) :
    Except Failure Survey :=
  match Records.decode settings text with
  | .ok records => .ok (survey.observeAll records)
  | .error failure => .error (failure.within place)

/-- A survey with the records of files, in order. -/
def takeInFiles (disk : Disk m) (settings : InputSettings) :
    List String → Survey → ExceptT Failure m Survey
  | [], survey => pure survey
  | path :: paths, survey => do
    let text ← readText disk path
    let survey ← ExceptT.mk (pure (takeIn settings path text survey))
    takeInFiles disk settings paths survey

/-- A survey with the records of the standard input. -/
def takeInStandard (disk : Disk m) (settings : InputSettings) (survey : Survey) :
    ExceptT Failure m Survey := do
  match ← disk.input with
  | some text => ExceptT.mk (pure (takeIn settings "stdin" text survey))
  | none => throw .fileAccess

/-! ## Writing -/

/-- Characters without slashes, and points between slashes, at their end. -/
def trimFolder (cs : List Char) : List Char :=
  go cs.reverse |>.reverse
where
  /-- The same at the start of characters, given in reverse. -/
  go : List Char → List Char
    | '/' :: cs => go cs
    | '.' :: '/' :: cs => go cs
    | cs => cs

/-- The name of a file with what follows its last point, unless that comes first, replaced by
`tmp`. -/
def temporaryName (name : List Char) : List Char :=
  match name.reverse.span (· != '.') with
  | (_, _ :: stem@(_ :: _)) => stem.reverse ++ ".tmp".toList
  | _ => name ++ ".tmp".toList

/-- The path under which a file is written before it gets its own. -/
def temporaryPath (path : String) : String :=
  let trimmed := trimFolder path.toList
  let name := (trimmed.reverse.takeWhile (· != '/')).reverse
  if name = [] ∨ name = ['.'] ∨ name = ['.', '.'] then path
  else String.ofList (trimmed.take (trimmed.length - name.length) ++ temporaryName name)

/-- Saves a snapshot: writes it beside its place first, then moves it there. -/
def save (disk : Disk m) (path : String) (snapshot : Snapshot) : ExceptT Failure m Unit := do
  if !(← disk.write (temporaryPath path) snapshot.toText) then throw .fileAccess
  if !(← disk.move (temporaryPath path) path) then throw .fileAccess

/-! ## Commands -/

/-- The text of an output: members of objects in order, and a line's end. -/
def output (pretty : Bool) (v : Json) : String :=
  let ordered := v.canonical
  (if pretty then ordered.pretty else ordered.compact) ++ "\n"

/-- Options of either kind. -/
def combine (a b : RenderOptions) : RenderOptions :=
  ⟨a.document || b.document, a.bounds || b.bounds⟩

/-- The settings with what an invocation asks for instead. -/
def override (request : InferRequest) (settings : Settings) : Settings :=
  { settings with
    input :=
      { form := request.form.getD settings.input.form
        recordPath := request.recordPath.or settings.input.recordPath
        splitArrays := request.splitArrays || settings.input.splitArrays } }

/-- The settings to go by, found to be sound. -/
def chooseSettings (disk : Disk m) (config : Option String) (request : InferRequest) :
    ExceptT Failure m Settings := do
  let settings ← readSettings disk config
  let settings := override request settings
  ExceptT.mk (pure settings.validate)
  pure settings

/-- The survey of all that is to be taken in. -/
def gather (disk : Disk m) (settings : Settings) (request : InferRequest) :
    ExceptT Failure m Survey := do
  let start ← match request.resume with
    | some path => resume disk settings.detectors path
    | none => pure (Survey.start settings.detectors)
  if request.files.isEmpty then takeInStandard disk settings.input start
  else takeInFiles disk settings.input request.files start

/-- The schema of all that is to be taken in. -/
def infer (disk : Disk m) (settings : Settings) (request : InferRequest) :
    ExceptT Failure m Schema := do
  let survey ← gather disk settings request
  match request.save with
  | some path => save disk path survey.snapshot
  | none => pure ()
  pure (survey.render (combine settings.rendering request.rendering))

/-- The list of formats. -/
def formatList : Json :=
  .object [("formats", .array (TextFormat.all.map fun f => .object
    [("name", .string f.name),
      ("json_schema_format", (f.schemaName?.map Json.string).getD .null)]))]

/-- What a command writes. -/
def command (disk : Disk m) (config : Option String) : Command → ExceptT Failure m Json
  | .infer request => do
    let settings ← chooseSettings disk config request
    let schema ← infer disk settings request
    pure schema.toJson
  | .render snapshot rendering => do
    let settings ← readSettings disk config
    let survey ← resume disk settings.detectors snapshot
    pure (survey.render (combine settings.rendering rendering)).toJson
  | .formats => pure formatList

end Run

/-- Does what an invocation asks for; gives the text of the output. -/
def Invocation.run {m : Type → Type} [Monad m] (disk : Disk m) (i : Invocation) :
    ExceptT Failure m String := do
  let v ← Run.command disk i.config i.command
  pure (Run.output i.pretty v)

end JsonShape
