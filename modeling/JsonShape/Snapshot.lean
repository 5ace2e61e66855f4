import JsonShape.Failure
import JsonShape.Json.Printer
import JsonShape.Json.Written
import JsonShape.Shape.Codec
import JsonShape.Shape.Invariant

/-!
# Snapshots

What a survey has learned, in a form that can be kept: a shape, how many values it came from, and
the version of this form. `Snapshot.toText` writes one, `Snapshot.ofText` reads one and checks it.

A member of a snapshot that is none of its fields is passed over when a text is read: it only has to
be well-formed, not to denote a value.
-/

set_option autoImplicit false

namespace JsonShape

/-- A count of 64 bits as a natural number. -/
instance coeUInt64ToNat : Coe UInt64 Nat := ⟨UInt64.toNat⟩

/-- A survey to be resumed later. -/
structure Snapshot where
  version : Nat
  /-- How many values the shape came from. -/
  observations : UInt64
  shape : Shape

namespace Snapshot

/-- The version of snapshots that are written. -/
def currentVersion : Nat := 1

/-- A snapshot of the current version is sound if its shape is. -/
def validate (s : Snapshot) : Except Failure Unit :=
  if s.version = currentVersion then
    match s.shape.check with
    | some breach => .error (.snapshot breach.message)
    | none => .ok ()
  else .error (.snapshotVersion s.version currentVersion)

/-! ## Writing -/

/-- A snapshot as JSON. -/
def toJson (s : Snapshot) : Json :=
  .object [("version", .ofNat s.version), ("observations", .ofNat s.observations),
    ("inferred", s.shape.toJson)]

/-- The text of a snapshot. -/
def toText (s : Snapshot) : String := s.toJson.pretty

/-! ## Reading -/

/-- The names of a snapshot's fields, in the order in which an array holds them. -/
def fieldNames : List String := ["version", "observations", "inferred"]

/-- The snapshot that given fields are; the number of values is zero if it is absent. -/
def ofFields? (fields : Entries Json) : Option Snapshot := do
  let version ← (Entries.only? "version" fields).bind Json.nat?
  let observations ← match Entries.atMostOne? "observations" fields with
    | some none => some 0
    | some (some v) => v.nat?.map UInt64.ofNat
    | none => none
  let shape ← (Entries.only? "inferred" fields).bind Shape.ofJson?
  if version < 0x100000000 then some ⟨version, observations, shape⟩ else none

/-- The snapshot that a value is. -/
def ofJson? : Json → Option Snapshot
  | .object members => ofFields? members
  | .array items =>
    if items.length = fieldNames.length then ofFields? (fieldNames.zip items) else none
  | _ => none

/-- The value of a document without the members that a snapshot passes over. -/
def ofDocument? : Written → Option Json
  | .object members =>
    if members.all fun m => m.1.isSome then
      Written.json? Written.maxNesting
        (.object (members.filter fun m => fieldNames.any fun name => m.1 == some name))
    else none
  | w => w.json? Written.maxNesting

/-- A snapshot that has been read, if it is sound, and a failure if none could be read. -/
def checked (problem : String) : Option Snapshot → Except Failure Snapshot
  | none => .error (.snapshot problem)
  | some s => s.validate.map fun _ => s

/-- The sound snapshot that a text is. -/
def ofText (text : String) : Except Failure Snapshot :=
  checked "Failed to parse snapshot JSON"
    (((Written.ofText? text).bind ofDocument?).bind ofJson?)

/-- The sound snapshot that a value is. -/
def ofJson (v : Json) : Except Failure Snapshot :=
  checked "Failed to decode snapshot" (ofJson? v)

end Snapshot

end JsonShape
