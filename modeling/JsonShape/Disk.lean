import JsonShape.Entries
import JsonShape.Text.Fields

/-!
# Files

What a run needs of the files around it is a `Disk`: to look at a path, to write a text there, and
to move a file. `Directory` is a tree of files as a value, as it is seen from a folder in it;
`Directory.disk` lets a run work on one.
-/

set_option autoImplicit false

namespace JsonShape

/-- What is found at a path. -/
inductive Lookup where
  | missing
  /-- Something is there, but it is not a text. -/
  | unreadable
  | text (contents : String)
deriving DecidableEq, Repr

/-- Access to files and to the standard input. -/
structure Disk (m : Type → Type) where
  look : String → m Lookup
  /-- Makes a text the contents of a file; tells whether that could be done. -/
  write : (path contents : String) → m Bool
  /-- Gives a file another path, in place of a file that was there; tells whether that could be
  done. -/
  move : (source target : String) → m Bool
  /-- The standard input, if it is a text. -/
  input : m (Option String)

/-! ## Directories as values -/

/-- What a file holds: a text, or bytes that are none. -/
inductive Content where
  | text (contents : String)
  | binary (bytes : List UInt8)
deriving DecidableEq, Repr

/-- What is found where a file is. -/
def Content.lookup : Content → Lookup
  | text contents => .text contents
  | binary _ => .unreadable

/-- The files below a root, by paths of names with a slash between, for one who works in the folder
that the names `here` lead to from the root. There is a folder wherever a file lies in one, and `here`
is one too. -/
structure Directory (here : List String := []) where
  files : Entries Content

namespace Directory

variable {here : List String}

/-- Names with a slash between. -/
def join (names : List String) : String := "/".intercalate names

/-- Whether a path of names is that of a folder. -/
def isFolder (d : Directory here) (name : String) : Bool :=
  name.isEmpty ||
    ((join here ++ "/") :: Entries.keys d.files).any fun inside => (name ++ "/").isPrefixOf inside

/-- The names that a path leads to, from those of a folder or file on, a step for each of its parts.
Only from a folder does a path lead on, and above the root is the root. -/
def walk (d : Directory here) :
    (parts : List (List Char)) → (names : List String) → Option (List String)
  | [], names => some names
  | part :: parts, names =>
    if d.isFolder (join names) then
      if part = [] ∨ part = ['.'] then walk d parts names
      else if part = ['.', '.'] then walk d parts names.dropLast
      else walk d parts (names ++ [String.ofList part])
    else none

/-- Whether the last part of a path stands for a folder only. -/
def endsInFolder (parts : List (List Char)) : Bool :=
  match parts.getLast? with
  | some part => part = [] || part = ['.'] || part = ['.', '.']
  | none => true

/-- Where a path starts: with a slash at the root, and else where one works. -/
def origin (here : List String) (path : String) : List String :=
  if path.toList.head? = some '/' then [] else here

/-- The path of names that a path leads to, and whether it can only be a folder's. The empty path
leads nowhere. -/
def place? (d : Directory here) (path : String) : Option (String × Bool) :=
  if path.isEmpty then none
  else
    let parts := fields '/' path.toList
    (d.walk parts (origin here path)).map fun names => (join names, endsInFolder parts)

/-- The path of names of a file that is there or could be. -/
def filePlace? (d : Directory here) (path : String) : Option String :=
  match d.place? path with
  | some (name, folder) => if folder || d.isFolder name then none else some name
  | none => none

/-- What is found at a path. -/
def look (d : Directory here) (path : String) : Lookup :=
  match d.place? path with
  | none => .missing
  | some (name, folder) =>
    if d.isFolder name then .unreadable
    else if folder then .missing
    else match Entries.get? name d.files with
      | some content => content.lookup
      | none => .missing

/-- The directory with a text as the contents of a file. -/
def write? (d : Directory here) (path contents : String) : Option (Directory here) :=
  (d.filePlace? path).map fun name => ⟨Entries.insert name (.text contents) d.files⟩

/-- The directory with a file at another path. -/
def move? (d : Directory here) (source target : String) : Option (Directory here) := do
  let old ← d.filePlace? source
  let content ← Entries.get? old d.files
  let new ← d.filePlace? target
  some ⟨Entries.insert new content (Entries.erase old d.files)⟩

/-- A change to the directory that a run works on, if it can be made. -/
def change (change? : Directory here → Option (Directory here)) :
    StateM (Directory here) Bool := fun d =>
  match change? d with
  | some changed => (true, changed)
  | none => (false, d)

/-- Access to a directory, with a given standard input. -/
def disk (input : Option String) : Disk (StateM (Directory here)) where
  look path := fun d => (d.look path, d)
  write path contents := change fun d => d.write? path contents
  move source target := change fun d => d.move? source target
  input := pure input

end Directory

end JsonShape
