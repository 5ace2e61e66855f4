import JsonShape.CommandLine

/-!
# Arguments

`Invocation.ofArguments` reads the arguments of the program. Options of every command may stand
before the command and after it; there, the later one counts. Within one part an option may stand
once.

An option takes the argument after it, even if that is a command's name, but not one that looks like
an option. Its value is looked at only when the next thing is: so an argument that is not known is
found before a value that is wrong.
-/

set_option autoImplicit false

namespace JsonShape

namespace Arguments

/-! ## Options -/

/-- An option or a flag. -/
inductive Switch where
  | config
  | format
  | verbose
  | help
  | version
  | inputFormat
  | recordPath
  | splitArrays
  | resume
  | saveSnapshot
  | includeSchema
  | bounds
deriving DecidableEq, Repr

namespace Switch

/-- The long name. -/
def long : Switch → String
  | config => "config"
  | format => "format"
  | verbose => "verbose"
  | help => "help"
  | version => "version"
  | inputFormat => "input-format"
  | recordPath => "record-path"
  | splitArrays => "split-arrays"
  | resume => "resume"
  | saveSnapshot => "save-snapshot"
  | includeSchema => "include-schema"
  | bounds => "bounds"

/-- The letter, for those that have one. -/
def short? : Switch → Option Char
  | config => some 'C'
  | format => some 'f'
  | verbose => some 'v'
  | help => some 'h'
  | version => some 'V'
  | _ => none

/-- Whether a value follows. -/
def takesValue : Switch → Bool
  | config | format | inputFormat | recordPath | resume | saveSnapshot => true
  | _ => false

/-- Whether a value can be used. -/
def accepts (value : String) : Switch → Bool
  | config | resume | saveSnapshot => !value.isEmpty
  | format => ["json", "pretty"].contains value
  | inputFormat => (InputForm.ofName? value).isSome
  | _ => true

end Switch

/-! ## Parts -/

/-- The part of the arguments before the command, or after one. -/
inductive Part where
  | program
  | infer
  | render
  | formats
deriving DecidableEq, Repr

namespace Part

/-- The options that may stand in a part. -/
def options : Part → List Switch
  | program => [.config, .format, .verbose, .help, .version]
  | infer => [.config, .format, .verbose, .help, .inputFormat, .recordPath, .splitArrays, .resume,
      .saveSnapshot, .includeSchema, .bounds]
  | render => [.config, .format, .verbose, .help, .includeSchema, .bounds]
  | formats => [.config, .format, .verbose, .help]

/-- How many files a part may name; any number if there is no limit. -/
def maxFiles : Part → Option Nat
  | infer => none
  | render => some 1
  | program | formats => some 0

/-- How many files a part must name. -/
def minFiles : Part → Nat
  | render => 1
  | _ => 0

/-- The command of a name. -/
def ofName? : String → Option Part
  | "infer" => some infer
  | "render" => some render
  | "formats" => some formats
  | _ => none

/-- The option of a long name. -/
def long? (part : Part) (name : String) : Option Switch :=
  part.options.find? fun o => o.long == name

/-- The option of a letter. -/
def short? (part : Part) (letter : Char) : Option Switch :=
  part.options.find? fun o => o.short? == some letter

end Part

/-! ## Reading a part -/

/-- What has been read and not been looked at yet. -/
inductive Pending where
  | nothing
  | option (name : Switch) (value : Option String)
  | files (paths : List String)

/-- What a part has given so far. -/
structure Given where
  values : List (Switch × String)
  files : List String
  pending : Pending

namespace Given

/-- Nothing yet. -/
def empty : Given := ⟨[], [], .nothing⟩

/-- Whether an option has been given. -/
def has (g : Given) (o : Switch) : Bool := g.values.any fun v => v.1 == o

/-- The value of an option. -/
def value? (g : Given) (o : Switch) : Option String :=
  (g.values.find? fun v => v.1 == o).map Prod.snd

/-- An option with its value looked at. -/
def set (g : Given) (o : Switch) (value : String) : Except Usage Given :=
  if g.has o then .error .conflict
  else if o.accepts value then .ok { g with values := g.values ++ [(o, value)] }
  else .error .invalidValue

/-- All that is pending looked at. -/
def settle (g : Given) : Except Usage Given :=
  let rest := { g with pending := .nothing }
  match g.pending with
  | .nothing => .ok rest
  | .option _ none => .error .invalidValue
  | .option o (some value) => rest.set o value
  | .files paths =>
    if paths.contains "" then .error .invalidValue
    else .ok { rest with files := rest.files ++ paths }

/-- How many files have been named. -/
def fileCount (g : Given) : Nat :=
  match g.pending with
  | .files paths => g.files.length + paths.length
  | _ => g.files.length

/-- A file named; further ones are looked at together. -/
def addFile (g : Given) (path : String) : Except Usage Given :=
  match g.pending with
  | .files paths => .ok { g with pending := .files (paths ++ [path]) }
  | _ => g.settle.map fun g => { g with pending := .files [path] }

/-- A flag. -/
def flag (g : Given) (o : Switch) : Except Usage Given := do
  let g ← g.settle
  match o with
  | .help => .error .help
  | .version => .error .version
  | o => g.set o ""

/-- An option, with its value if that stands in the same argument. -/
def option (g : Given) (o : Switch) (value : Option String) : Except Usage Given := do
  let g ← g.settle
  match value with
  | some value => g.set o value
  | none => .ok { g with pending := .option o none }

/-- The option that waits for its value. -/
def waiting? (g : Given) : Option Switch :=
  match g.pending with
  | .option o none => some o
  | _ => none

end Given

/-- A long name, and the value after an equals sign. -/
def long (part : Part) (g : Given) (body : List Char) : Except Usage Given :=
  let (name, value) := match body.span (· != '=') with
    | (name, _ :: value) => (name, some (String.ofList value))
    | (name, []) => (name, none)
  match part.long? (String.ofList name) with
  | none => .error .unknownArgument
  | some o =>
    if o.takesValue then g.option o value
    else if value.isSome then .error .needlessValue
    else g.flag o

/-- Letters of flags, up to one of an option, after which its value may stand. -/
def short (part : Part) (g : Given) : List Char → Except Usage Given
  | [] => .ok g
  | letter :: letters =>
    match part.short? letter with
    | none => .error .unknownArgument
    | some o =>
      if o.takesValue then
        g.option o (match letters with
          | [] => none
          | '=' :: value => some (String.ofList value)
          | value => some (String.ofList value))
      else (g.flag o).bind fun g => short part g letters

/-- An argument that is no option: a file, if the part may name one more. -/
def file (part : Part) (literal : Bool) (g : Given) (arg : String) : Except Usage Given :=
  match part.maxFiles with
  | none => g.addFile arg
  | some count =>
    if g.fileCount < count then g.addFile arg
    else if part = .program ∧ !(literal ∧ (arg = "help" ∨ (Part.ofName? arg).isSome)) then
      .error .unknownCommand
    else .error .unknownArgument

/-- An argument that may be an option, a value, or a file. -/
def argument (part : Part) (g : Given) (arg : String) : Except Usage Given :=
  match arg.toList, g.waiting? with
  | '-' :: '-' :: body, _ => long part g body
  | '-' :: letter :: letters, _ => short part g (letter :: letters)
  | _, some o => .ok { g with pending := .option o (some arg) }
  | _, none => file part false g arg

/-- A part, up to its end or, before the command, up to the command and what follows it. After `--`
(`literal`) all arguments are files. -/
def part (p : Part) (literal : Bool) (g : Given) :
    List String → Except Usage (Given × Option (String × List String))
  | [] => .ok (g, none)
  | arg :: args =>
    if literal then (file p true g arg).bind fun g => part p true g args
    else if p = .program ∧ g.waiting? = none ∧ (arg = "help" ∨ (Part.ofName? arg).isSome) then
      .ok (g, some (arg, args))
    else if arg = "--" then part p true g args
    else (argument p g arg).bind fun g => part p false g args

/-! ## The whole -/

/-- What is asked for on top of the settings. -/
def rendering (g : Given) : RenderOptions := ⟨g.has .includeSchema, g.has .bounds⟩

/-- The command of a part that has been read. -/
def command (p : Part) (g : Given) : Command :=
  match p with
  | .infer => .infer
    { files := g.files
      form := (g.value? .inputFormat).bind InputForm.ofName?
      recordPath := g.value? .recordPath
      splitArrays := g.has .splitArrays
      resume := g.value? .resume
      save := g.value? .saveSnapshot
      rendering := rendering g }
  | .render => .render (g.files.headD "") (rendering g)
  | .formats | .program => .formats

/-- The value of an option of every command. -/
def shared (before after : Given) (o : Switch) : Option String :=
  (after.value? o).or (before.value? o)

/-- What follows a command. -/
def afterCommand (p : Part) (args : List String) : Except Usage Given := do
  let (g, _) ← part p false .empty args
  let g ← g.settle
  if g.files.length < p.minFiles then .error .missingArgument else .ok g

/-- Help on commands: each argument must be the name of one, inside the one before. -/
def helpOn : List String → Usage
  | [] => .help
  | [name] => if name = "help" ∨ (Part.ofName? name).isSome then .help else .unknownCommand
  | _ => .unknownCommand

end Arguments

open Arguments in
/-- What arguments ask for. -/
def Invocation.ofArguments (args : List String) : Except Usage Invocation := do
  let (before, rest) ← part .program false .empty args
  match rest with
  | some (name, args) =>
    match Part.ofName? name with
    | some p =>
      let after ← afterCommand p args
      let before ← before.settle
      .ok
        { config := shared before after .config
          pretty := shared before after .format == some "pretty"
          verbose := before.has .verbose || after.has .verbose
          command := Arguments.command p after }
    | none => .error (helpOn args)
  | none =>
    let before ← before.settle
    .error (if before.values.isEmpty then .nothing else .missingCommand)

end JsonShape
