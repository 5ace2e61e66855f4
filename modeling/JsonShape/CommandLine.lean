import JsonShape.Settings

/-!
# The command line

What a run is asked to do, in the terms of the program: `Invocation` is a command with the options
that go with every command. `Usage` is the answer to arguments that ask for no run.
-/

set_option autoImplicit false

namespace JsonShape

/-- The name of the program. -/
def programName : String := "schema-infer"

/-- The version of the program. -/
def programVersion : String := "0.1.0"

/-- What `infer` is asked to do. -/
structure InferRequest where
  /-- The files to take in; none stands for the standard input. -/
  files : List String
  form : Option InputForm
  recordPath : Option String
  splitArrays : Bool
  /-- The snapshot to go on from. -/
  resume : Option String
  /-- Where to keep a snapshot. -/
  save : Option String
  /-- What is asked for on top of the settings. -/
  rendering : RenderOptions
deriving DecidableEq, Repr

/-- What a run does. -/
inductive Command where
  /-- Takes in documents and writes their schema. -/
  | infer (request : InferRequest)
  /-- Writes the schema of a snapshot. -/
  | render (snapshot : String) (rendering : RenderOptions)
  /-- Lists the formats of strings. -/
  | formats
deriving DecidableEq, Repr

/-- What a run is asked to do. -/
structure Invocation where
  /-- The file that holds the settings. -/
  config : Option String
  /-- Whether the output is indented. -/
  pretty : Bool
  verbose : Bool
  command : Command
deriving DecidableEq, Repr

/-- Why arguments ask for no run. -/
inductive Usage where
  | help
  | version
  /-- There is no command, nor anything else. -/
  | nothing
  | missingCommand
  | unknownCommand
  | unknownArgument
  | invalidValue
  | missingArgument
  /-- An option is given twice. -/
  | conflict
  /-- A flag is given a value. -/
  | needlessValue
deriving DecidableEq, Repr

namespace Usage

/-- Whether the arguments asked for just this answer. -/
def isAnswer : Usage → Bool
  | help | version => true
  | _ => false

/-- The exit code of a run that ends with this. -/
def exitCode (u : Usage) : Nat := if u.isAnswer then 0 else 2

end Usage

end JsonShape
