import JsonShape.Text.Ascii
import JsonShape.Text.Digit

/-!
# Identifiers

UUIDs are groups of hexadecimal digits, `8-4-4-4-12`. Phone numbers are a `+` and 7 to 15 digits of
which the first is one of `1` to `9`; the others may be the digits of any script.
-/

set_option autoImplicit false

namespace JsonShape

namespace TextFormat

/-- Whether characters are groups of hexadecimal digits of these sizes with hyphens between. -/
def isHexGroups : (sizes : List Nat) → List Char → Bool
  | [], _ => false
  | [size], cs => cs.length == size && cs.all fun c => (hexDigit? c).isSome
  | size :: sizes, cs =>
    (cs.take size).length == size && ((cs.take size).all fun c => (hexDigit? c).isSome) &&
      match cs.drop size with
      | '-' :: rest => isHexGroups sizes rest
      | _ => false

/-- Whether a text is a UUID. -/
def isUuid (s : String) : Bool := isHexGroups [8, 4, 4, 4, 12] s.toList

/-- Whether a text is a phone number. -/
def isPhone (s : String) : Bool :=
  match s.toList with
  | '+' :: first :: more =>
    '1' ≤ first && first ≤ '9' && 6 ≤ more.length && more.length ≤ 14 && more.all isDecimalDigit
  | _ => false

end TextFormat

end JsonShape
