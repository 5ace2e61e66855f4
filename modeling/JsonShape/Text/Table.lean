import JsonShape.Text.Ascii
import JsonShape.Text.Fields

/-!
# Tables of characters

Tables of code points in hexadecimal notation: a comma ends a row, blanks separate its numbers.
`CharRanges` is a set of characters, given by a table of ranges.
-/

set_option autoImplicit false

namespace JsonShape

/-! ## Rows -/

/-- The number that hexadecimal digits spell; other characters do not count. -/
def hexNumber (cs : List Char) : Nat :=
  (cs.filterMap hexDigit?).foldl (16 * · + ·) 0

/-- The rows of a table. -/
def hexRows (table : String) : List (List Nat) :=
  (fields ',' table.toList).map fun row =>
    ((fields ' ' (row.filter (· != '\n'))).filter (!·.isEmpty)).map hexNumber

/-! ## Sets of characters -/

/-- A set of characters, as ranges of code points with both ends included. -/
structure CharRanges where
  ranges : List (Nat × Nat)

namespace CharRanges

/-- The set that a table gives, one range or code point a row. -/
def ofTable (table : String) : CharRanges :=
  ⟨(hexRows table).filterMap fun
    | [n] => some (n, n)
    | [first, last] => some (first, last)
    | _ => none⟩

/-- Whether a character is in the set. -/
def contains (s : CharRanges) (c : Char) : Bool :=
  s.ranges.any fun (first, last) => first ≤ c.toNat && c.toNat ≤ last

end CharRanges

end JsonShape
