import JsonShape.Text.Ascii

/-!
# Names of labels

Host names and the domains of e-mail addresses: labels with points between them. Both are scanned
from left to right, one label being summed up in `Label`.

A label has 1 to 63 letters, digits and hyphens and neither starts nor ends with a hyphen. A host
name ends in a label of two or more letters and has at most 253 bytes; the domain of an address may
end in any label.
-/

set_option autoImplicit false

namespace JsonShape

namespace TextFormat

/-- What matters of a label that has been read so far. -/
structure Label where
  length : Nat
  /-- Whether its last character is a hyphen. -/
  hyphen : Bool
  /-- Whether it holds letters only. -/
  letters : Bool

namespace Label

/-- The label before its first character. -/
def start : Label := ⟨0, false, true⟩

/-- The label with one more character, if the character may follow. -/
def push? (l : Label) (c : Char) : Option Label :=
  if isAsciiLetter c then some ⟨l.length + 1, false, l.letters⟩
  else if isAsciiDigit c then some ⟨l.length + 1, false, false⟩
  else if c = '-' ∧ 0 < l.length then some ⟨l.length + 1, true, false⟩
  else none

/-- Whether a label may end here. -/
def complete (l : Label) : Bool := 1 ≤ l.length && l.length ≤ 63 && !l.hyphen

/-- Whether a label may be the last one of a host name. -/
def topLevel (l : Label) : Bool := l.letters && 2 ≤ l.length

end Label

/-- Whether the rest of a name continues the label `current` to a name whose last label is `last`,
where `before` tells whether a label comes before `current`. -/
def scanLabels (last : Label → Bool) (before : Bool) (current : Label) : List Char → Bool
  | [] => before && current.complete && last current
  | '.' :: cs => current.complete && scanLabels last true .start cs
  | c :: cs => match current.push? c with
    | some next => scanLabels last before next cs
    | none => false

/-- Whether a text is a host name. -/
def isHostname (s : String) : Bool :=
  s.utf8ByteSize ≤ 253 && scanLabels Label.topLevel false .start s.toList

/-- Whether a character may stand before the `@` of an address. -/
def inMailbox (c : Char) : Bool :=
  isAsciiLetter c || isAsciiDigit c || ".!#$%&'*+/=?^_`\x7b|\x7d~-".toList.contains c

/-- Whether a text is an e-mail address. -/
def isEmail (s : String) : Bool :=
  match s.toList.span inMailbox with
  | (_ :: _, '@' :: domain) => scanLabels (fun _ => true) false .start domain
  | _ => false

end TextFormat

end JsonShape
