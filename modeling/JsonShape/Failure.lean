/-!
# Failures

What may go wrong with settings, input and snapshots, and the text that says so.
-/

set_option autoImplicit false

namespace JsonShape

/-- Why something could not be done. -/
inductive Failure where
  /-- The configuration cannot be used. -/
  | configuration (message : String)
  /-- A setting has a value that cannot be used. -/
  | setting (field message : String)
  /-- A text is no YAML document, or not one of the form that is asked for. -/
  | yaml
  /-- A text or a value is no JSON of the form that is asked for. -/
  | json
  /-- A record path cannot be followed. -/
  | recordPath (message : String)
  /-- A document cannot be cut into records. -/
  | input (message : String)
  /-- A snapshot is malformed. -/
  | snapshot (message : String)
  /-- A snapshot is of another version. -/
  | snapshotVersion (found expected : Nat)
  /-- A file cannot be read or written. -/
  | fileAccess
  | fileNotFound (path : String)
  /-- A failure that is known by its text only. -/
  | other (text : String)
deriving DecidableEq, Repr

namespace Failure

/-- The decimal digits of a natural number. -/
def decimal (n : Nat) : String := String.ofList (Nat.toDigits 10 n)

/-- What a failure says. -/
def message : Failure → String
  | configuration message => "Configuration error: " ++ message
  | setting field message => "Invalid config value for '" ++ field ++ "': " ++ message
  | yaml => "Failed to parse YAML"
  | json => "Failed to parse JSON"
  | recordPath message => "JSONPath error: " ++ message
  | input message => "Failed to decode input: " ++ message
  | snapshot message => "Malformed snapshot: " ++ message
  | snapshotVersion found expected =>
    "Unsupported snapshot version " ++ decimal found ++ " (expected " ++ decimal expected ++ ")"
  | fileAccess => "IO error"
  | fileNotFound path => "File not found: " ++ path
  | other text => text

/-- A failure with the place where it arose named in front of its text. -/
def within (place : String) (failure : Failure) : Failure :=
  other (place ++ ": " ++ failure.message)

/-- Whether a snapshot is at fault. -/
def isSnapshot : Failure → Bool
  | snapshot _ | snapshotVersion _ _ => true
  | _ => false

end Failure

end JsonShape
