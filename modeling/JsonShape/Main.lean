import JsonShape.CommandLine.Arguments
import JsonShape.CommandLine.Run

/-!
# The program

Reads the arguments and does what they ask for, with the files of the system. The schema goes to the
standard output; failures and help that has not been asked for go to the standard error.
-/

set_option autoImplicit false

namespace JsonShape

namespace Program

/-- What is found when a file cannot be read: nothing, if there is no such file or a part of its
path is no folder. -/
def lookupOfError : IO.Error → Lookup
  | .noFileOrDirectory .. => .missing
  | .inappropriateType _ 20 _ => .missing
  | _ => .unreadable

/-- What is found at a path of the system. -/
def look (path : String) : IO Lookup := do
  try
    let bytes ← IO.FS.readBinFile path
    match String.fromUTF8? bytes with
    | some text => pure (.text text)
    | none => pure .unreadable
  catch e => pure (lookupOfError e)

/-- Whether an action succeeds. -/
def succeeds (action : IO Unit) : IO Bool := do
  try
    action
    pure true
  catch _ => pure false

/-- The bytes of the standard input up to its end. -/
partial def readAll (stream : IO.FS.Stream) (read : ByteArray) : IO ByteArray := do
  let more ← stream.read 65536
  if more.isEmpty then pure read else readAll stream (read ++ more)

/-- The standard input, if it is a text. -/
def standardInput : IO (Option String) := do
  try
    let bytes ← readAll (← IO.getStdin) .empty
    pure (String.fromUTF8? bytes)
  catch _ => pure none

/-- The files of the system. -/
def disk : Disk IO where
  look := look
  write path contents := succeeds (IO.FS.writeFile path contents)
  move source target := succeeds (IO.FS.rename source target)
  input := standardInput

/-- What help says. -/
def helpText : String :=
  "Incremental JSON Schema inference\n\n" ++
  "Usage: schema-infer [OPTIONS] <COMMAND>\n\n" ++
  "Commands:\n" ++
  "  infer    Infer a schema from JSON documents (stdin when no files are given)\n" ++
  "  render   Render the schema held in a snapshot\n" ++
  "  formats  List recognized string formats\n" ++
  "  help     Print this message or the help of the given subcommand(s)\n\n" ++
  "Options:\n" ++
  "  -C, --config <CONFIG>  Configuration file (YAML)\n" ++
  "  -f, --format <FORMAT>  Output format [default: json] [possible values: json, pretty]\n" ++
  "  -v, --verbose          Verbose output\n" ++
  "  -h, --help             Print help\n" ++
  "  -V, --version          Print version\n"

/-- Answers arguments that ask for no run. -/
def answer (u : Usage) : IO Unit := do
  match u with
  | .help => (← IO.getStdout).putStr helpText
  | .version => (← IO.getStdout).putStr (programName ++ " " ++ programVersion ++ "\n")
  | _ => (← IO.getStderr).putStr helpText

end Program

end JsonShape

open JsonShape in
/-- The program; gives its exit code. -/
def main (args : List String) : IO UInt32 := do
  match Invocation.ofArguments args with
  | .error u =>
    Program.answer u
    pure u.exitCode.toUInt32
  | .ok invocation =>
    match ← (invocation.run Program.disk).run with
    | .ok text =>
      (← IO.getStdout).putStr text
      pure 0
    | .error failure =>
      (← IO.getStderr).putStrLn ("Error: " ++ failure.message)
      pure 1
