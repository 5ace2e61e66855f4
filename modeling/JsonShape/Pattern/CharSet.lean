import JsonShape.Text.Ascii
import JsonShape.Text.Blank
import JsonShape.Text.Digit

/-!
# Sets of characters

The sets that a pattern may ask a character to belong to: ranges of code points, the digits and the
white space of all scripts, and what is made of other sets.
-/

set_option autoImplicit false

namespace JsonShape

/-- An ASCII letter in the other case; any other character as it is. -/
def otherCase (c : Char) : Char :=
  if 'a' ≤ c ∧ c ≤ 'z' then Char.ofNat (c.toNat - 32) else lowerAscii c

/-- A set of characters. -/
inductive CharSet where
  | empty
  /-- The characters from one to another, both included. -/
  | range (first last : Char)
  /-- The decimal digits of all scripts. -/
  | digits
  /-- White space. -/
  | blanks
  | union (a b : CharSet)
  | inverse (a : CharSet)
  /-- A set, with its letters in either case. -/
  | anyCase (a : CharSet)
deriving DecidableEq, Repr

namespace CharSet

/-- Whether a set holds a character. -/
def contains : CharSet → Char → Bool
  | empty, _ => false
  | range first last, c => first ≤ c && c ≤ last
  | digits, c => isDecimalDigit c
  | blanks, c => isBlank c
  | union a b, c => a.contains c || b.contains c
  | inverse a, c => !a.contains c
  | anyCase a, c => a.contains c || a.contains (otherCase c)

/-- The set of one character. -/
def single (c : Char) : CharSet := range c c

/-- What some set holds. -/
def anyOf (sets : List CharSet) : CharSet := sets.foldr union empty

/-- A set, or all that it does not hold. -/
def inverseIf (inverted : Bool) (a : CharSet) : CharSet := if inverted then inverse a else a

theorem contains_single {c d : Char} : (single c).contains d = true ↔ d = c := by
  simp only [single, contains, Bool.and_eq_true, decide_eq_true_eq]
  constructor
  · rintro ⟨low, high⟩
    exact Char.le_antisymm high low
  · rintro rfl
    exact ⟨Char.le_refl d, Char.le_refl d⟩

theorem contains_anyOf {sets : List CharSet} {c : Char} :
    (anyOf sets).contains c = true ↔ ∃ set ∈ sets, set.contains c = true := by
  induction sets with
  | nil => simp [anyOf, contains]
  | cons set sets ih =>
    rw [anyOf, List.foldr_cons, contains, Bool.or_eq_true, ← anyOf, ih]
    simp

/-! ## Sets of ASCII characters -/

def upper : CharSet := range 'A' 'Z'

def lower : CharSet := range 'a' 'z'

def asciiDigits : CharSet := range '0' '9'

def letters : CharSet := anyOf [upper, lower]

/-- Letters and digits. -/
def alnum : CharSet := anyOf [upper, lower, asciiDigits]

/-- What belongs to a word, as far as ASCII goes. -/
def word : CharSet := anyOf [upper, lower, asciiDigits, single '_']

/-- Hexadecimal digits. -/
def hex : CharSet := anyOf [asciiDigits, range 'a' 'f', range 'A' 'F']

/-- What is not a letter, a digit or a control character. -/
def punctuation : CharSet :=
  anyOf [range '!' '/', range ':' '@', range '[' '\x60', range '\x7b' '~']

end CharSet

end JsonShape
