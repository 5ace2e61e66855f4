import JsonShape.Json
import JsonShape.Double.Shortest

/-!
# JSON text

`Json.compact` writes a value without blanks, `Json.pretty` with a line for each item and member,
two blanks deeper than its container. Both write members in the order they have; only `"`, `\` and
control characters are escaped.
-/

set_option autoImplicit false

namespace JsonShape

/-! ## Leaves -/

/-- The text of an integer. -/
def integerText (n : Int) : List Char :=
  (if n < 0 then ['-'] else []) ++ Nat.toDigits 10 n.natAbs

/-- The text of a number. -/
def Number.text : Number → List Char
  | .integer value _ => integerText value
  | .double value _ => value.text Double.json

namespace Json

/-- A character inside quotes. -/
def escapeChar (c : Char) : List Char :=
  if c = '"' then ['\\', '"']
  else if c = '\\' then ['\\', '\\']
  else if c = '\x08' then ['\\', 'b']
  else if c = '\x0c' then ['\\', 'f']
  else if c = '\n' then ['\\', 'n']
  else if c = '\r' then ['\\', 'r']
  else if c = '\t' then ['\\', 't']
  else if c.toNat < 0x20 then
    ['\\', 'u', '0', '0', Nat.digitChar (c.toNat / 16), Nat.digitChar (c.toNat % 16)]
  else [c]

/-- A string in quotes. -/
def quote (s : String) : List Char :=
  '"' :: s.toList.flatMap escapeChar ++ ['"']

/-! ## Compact text -/

mutual

/-- The characters of a value without blanks. -/
def compactChars : Json → List Char
  | null => ['n', 'u', 'l', 'l']
  | bool true => ['t', 'r', 'u', 'e']
  | bool false => ['f', 'a', 'l', 's', 'e']
  | number n => n.text
  | string s => quote s
  | array [] => ['[', ']']
  | array (v :: rest) => '[' :: (compactChars v ++ compactItems rest)
  | object [] => ['\x7b', '\x7d']
  | object ((k, v) :: rest) =>
    '\x7b' :: (quote k ++ ':' :: (compactChars v ++ compactMembers rest))

/-- The items after the first, and the end of the array. -/
def compactItems : List Json → List Char
  | [] => [']']
  | v :: rest => ',' :: (compactChars v ++ compactItems rest)

/-- The members after the first, and the end of the object. -/
def compactMembers : List (String × Json) → List Char
  | [] => ['\x7d']
  | (k, v) :: rest => ',' :: (quote k ++ ':' :: (compactChars v ++ compactMembers rest))

end

/-- The text of a value without blanks. -/
def compact (v : Json) : String := String.ofList v.compactChars

/-! ## Indented text -/

/-- A new line at a depth. -/
def newline (depth : Nat) : List Char := '\n' :: List.replicate (2 * depth) ' '

mutual

/-- The characters of a value at a depth, indented. -/
def prettyChars (depth : Nat) : Json → List Char
  | null => ['n', 'u', 'l', 'l']
  | bool true => ['t', 'r', 'u', 'e']
  | bool false => ['f', 'a', 'l', 's', 'e']
  | number n => n.text
  | string s => quote s
  | array [] => ['[', ']']
  | array (v :: rest) =>
    '[' :: (newline (depth + 1) ++ prettyChars (depth + 1) v ++ prettyItems depth rest)
  | object [] => ['\x7b', '\x7d']
  | object ((k, v) :: rest) =>
    '\x7b' :: (newline (depth + 1) ++ quote k ++ ':' :: ' ' ::
      (prettyChars (depth + 1) v ++ prettyMembers depth rest))

/-- The items after the first, and the end of the array at a depth. -/
def prettyItems (depth : Nat) : List Json → List Char
  | [] => newline depth ++ [']']
  | v :: rest =>
    ',' :: (newline (depth + 1) ++ prettyChars (depth + 1) v ++ prettyItems depth rest)

/-- The members after the first, and the end of the object at a depth. -/
def prettyMembers (depth : Nat) : List (String × Json) → List Char
  | [] => newline depth ++ ['\x7d']
  | (k, v) :: rest =>
    ',' :: (newline (depth + 1) ++ quote k ++ ':' :: ' ' ::
      (prettyChars (depth + 1) v ++ prettyMembers depth rest))

end

/-- The text of a value, indented. -/
def pretty (v : Json) : String := String.ofList (v.prettyChars 0)

end Json

end JsonShape
