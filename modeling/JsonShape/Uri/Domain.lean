import JsonShape.Text.Ascii
import JsonShape.Uri.Domain.Direction
import JsonShape.Uri.Domain.Joining
import JsonShape.Uri.Domain.Mapping
import JsonShape.Uri.Domain.Punycode

/-!
# Domain names of hosts

Domains may be written in any script, after Unicode Technical Standard 46. `domain?` gives a domain
the form that does not depend on how it was written: its characters are mapped and composed, and
labels in Punycode, which start with `xn--`, are decoded.
-/

set_option autoImplicit false

namespace JsonShape

namespace Uri

/-- The ASCII characters that no domain may have. -/
def isForbidden (c : Char) : Bool :=
  c.toNat ≤ 0x20 || c.toNat == 0x7f || "#/:<>?@[\\]^|%".toList.contains c

/-- A label in its own script. Punycode must be shorter than 2001 characters and stand for a label
that is not ASCII and has its form already. -/
def ownScript? : List Char → Option (List Char)
  | 'x' :: 'n' :: '-' :: '-' :: code => do
    let label ← Punycode.decode? code
    if code.length ≤ 2000 ∧ !label.all isAscii ∧ label.all isKept ∧ composedForm label = label then
      some label
    else none
  | label => some label

/-- Whether a label in its own script may stand in a domain; one that is not ASCII has up to 1000
characters. -/
def isLabel (label : List Char) : Bool :=
  label.all isAscii ||
    (label.length ≤ 1000 && !(label.head?.any isMark) && joinersFit [] label)

/-- A domain in its own script, lower case and composed. -/
def domain? (cs : List Char) : Option (List Char) := do
  let mapped ← cs.mapM mapped?
  let text := composedForm mapped.flatten
  if text.any isForbidden then none
  else
    let labels ← (fields '.' text).mapM ownScript?
    let directions := labels.map (·.map Direction.of)
    if labels.all isLabel ∧
        (directions.any (·.any (·.isRightward)) → directions.all Direction.isStable) then
      some (List.intercalate ['.'] labels)
    else none

end Uri

end JsonShape
