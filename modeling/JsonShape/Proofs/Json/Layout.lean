import JsonShape.Json.Printer
import JsonShape.Proofs.Json.Canonical
import JsonShape.Proofs.Json.Numerals

/-!
# Values laid out with blanks

Indented and compact text are one text with other blanks in it: a `Layout` says which blanks stand in
front of items and members, and after colons. Both are layouts (`chars_indented`, `chars_dense`).
-/

set_option autoImplicit false

namespace JsonShape

namespace Json

/-- Whether a character may stand between tokens. -/
def IsSpace (c : Char) : Prop := c = ' ' ∨ c = '\t' ∨ c = '\n' ∨ c = '\r'

/-- The blanks in the text of a value. -/
structure Layout where
  /-- In front of an item, a member or the end of a container, at a depth. -/
  line : Nat → List Char
  /-- After a colon. -/
  gap : List Char
  line_blank : ∀ depth, ∀ c ∈ line depth, IsSpace c
  gap_blank : ∀ c ∈ gap, IsSpace c

namespace Layout

mutual

/-- The characters of a value at a depth. -/
def chars (l : Layout) (depth : Nat) : Json → List Char
  | null => ['n', 'u', 'l', 'l']
  | bool true => ['t', 'r', 'u', 'e']
  | bool false => ['f', 'a', 'l', 's', 'e']
  | number n => n.text
  | string s => quote s
  | array [] => ['[', ']']
  | array (v :: rest) =>
    '[' :: (l.line (depth + 1) ++ chars l (depth + 1) v ++ charsOfItems l depth rest)
  | object [] => ['\x7b', '\x7d']
  | object ((k, v) :: rest) =>
    '\x7b' :: (l.line (depth + 1) ++ quote k ++ ':' :: (l.gap ++
      (chars l (depth + 1) v ++ charsOfMembers l depth rest)))

/-- The items after the first, and the end of the array at a depth. -/
def charsOfItems (l : Layout) (depth : Nat) : List Json → List Char
  | [] => l.line depth ++ [']']
  | v :: rest => ',' :: (l.line (depth + 1) ++ chars l (depth + 1) v ++ charsOfItems l depth rest)

/-- The members after the first, and the end of the object at a depth. -/
def charsOfMembers (l : Layout) (depth : Nat) : List (String × Json) → List Char
  | [] => l.line depth ++ ['\x7d']
  | (k, v) :: rest =>
    ',' :: (l.line (depth + 1) ++ quote k ++ ':' :: (l.gap ++
      (chars l (depth + 1) v ++ charsOfMembers l depth rest)))

end

/-! ## Indented text -/

theorem isSpace_of_mem_newline (depth : Nat) : ∀ c ∈ newline depth, IsSpace c := by
  intro c hc
  rcases List.mem_cons.1 hc with rfl | hc
  · exact .inr (.inr (.inl rfl))
  · exact .inl (List.eq_of_mem_replicate hc)

/-- A line for each item and member. -/
def indented : Layout where
  line := newline
  gap := [' ']
  line_blank := isSpace_of_mem_newline
  gap_blank := by simp [IsSpace]

mutual

theorem chars_indented (depth : Nat) : ∀ v : Json, indented.chars depth v = v.prettyChars depth
  | .null | .bool true | .bool false | .number _ | .string _ | .array [] | .object [] => rfl
  | .array (v :: rest) => by
    rw [chars, prettyChars, chars_indented (depth + 1) v, charsOfItems_indented depth rest]
    rfl
  | .object ((k, v) :: rest) => by
    rw [chars, prettyChars, chars_indented (depth + 1) v, charsOfMembers_indented depth rest]
    rfl

theorem charsOfItems_indented (depth : Nat) : ∀ rest : List Json,
    indented.charsOfItems depth rest = prettyItems depth rest
  | [] => rfl
  | v :: rest => by
    rw [charsOfItems, prettyItems, chars_indented (depth + 1) v, charsOfItems_indented depth rest]
    rfl

theorem charsOfMembers_indented (depth : Nat) : ∀ rest : List (String × Json),
    indented.charsOfMembers depth rest = prettyMembers depth rest
  | [] => rfl
  | (k, v) :: rest => by
    rw [charsOfMembers, prettyMembers, chars_indented (depth + 1) v,
      charsOfMembers_indented depth rest]
    rfl

end

/-! ## Compact text -/

/-- No blanks. -/
def dense : Layout where
  line := fun _ => []
  gap := []
  line_blank := by simp
  gap_blank := by simp

mutual

theorem chars_dense (depth : Nat) : ∀ v : Json, dense.chars depth v = v.compactChars
  | .null | .bool true | .bool false | .number _ | .string _ | .array [] | .object [] => rfl
  | .array (v :: rest) => by
    rw [chars, compactChars, chars_dense (depth + 1) v, charsOfItems_dense depth rest]
    rfl
  | .object ((k, v) :: rest) => by
    rw [chars, compactChars, chars_dense (depth + 1) v, charsOfMembers_dense depth rest]
    rfl

theorem charsOfItems_dense (depth : Nat) : ∀ rest : List Json,
    dense.charsOfItems depth rest = compactItems rest
  | [] => rfl
  | v :: rest => by
    rw [charsOfItems, compactItems, chars_dense (depth + 1) v, charsOfItems_dense depth rest]
    rfl

theorem charsOfMembers_dense (depth : Nat) : ∀ rest : List (String × Json),
    dense.charsOfMembers depth rest = compactMembers rest
  | [] => rfl
  | (k, v) :: rest => by
    rw [charsOfMembers, compactMembers, chars_dense (depth + 1) v, charsOfMembers_dense depth rest]
    rfl

end

end Layout

end Json

end JsonShape
