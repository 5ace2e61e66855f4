import JsonShape.Entries

/-!
# YAML documents

A document is a tree of scalars, sequences and mappings. A mapping keeps its entries as they are
written. Of a scalar it is known whether it stands without quotes, since only such a one can mean
anything but text.
-/

set_option autoImplicit false

namespace JsonShape

/-- A node of a YAML document. -/
inductive Yaml where
  | scalar (plain : Bool) (tag : Option String) (text : String)
  | sequence (items : List Yaml)
  | mapping (entries : List (Yaml × Yaml))

namespace Yaml

/-- What stands where nothing is written. -/
def empty : Yaml := .scalar true none ""

instance : Inhabited Yaml := ⟨empty⟩

/-! ## Characters -/

/-- Whether a character ends a line, once the usual ends of lines are all line feeds. -/
def isBreak (c : Char) : Bool := c == '\n' || c == '\u2028' || c == '\u2029'

/-- Whether a character is a space or a tab. -/
def isSpace (c : Char) : Bool := c == ' ' || c == '\t'

/-- Whether characters begin with white space or are at their end. -/
def atGap : List Char → Bool
  | [] => true
  | c :: _ => isSpace c || isBreak c

/-- Whether a line begins with the mark of a document's start or end. -/
def atMarker : List Char → Bool
  | '-' :: '-' :: '-' :: cs => atGap cs
  | '.' :: '.' :: '.' :: cs => atGap cs
  | _ => false

/-- Whether a character may stand in a document at all. -/
def isAllowed (c : Char) : Bool :=
  let n := c.toNat
  n == 0x09 || n == 0x0a || n == 0x0d || (0x20 ≤ n && n ≤ 0x7e) || n == 0x85 ||
    (0xa0 ≤ n && n ≤ 0xfffd) || 0x10000 ≤ n

/-- Characters with every carriage return, next line, and pair of carriage return and line feed
turned into one line feed. -/
def normalBreaks : List Char → List Char
  | '\r' :: '\n' :: cs => '\n' :: normalBreaks cs
  | '\r' :: cs => '\n' :: normalBreaks cs
  | '\u0085' :: cs => '\n' :: normalBreaks cs
  | c :: cs => c :: normalBreaks cs
  | [] => []

/-- What the breaks between two lines of a scalar stand for: a single line feed is a space, and of
several the first one does not count. -/
def fold (first : Char) (more : List Char) : List Char :=
  if first = '\n' then if more.isEmpty then [' '] else more
  else first :: more

end Yaml

end JsonShape
