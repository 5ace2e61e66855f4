import JsonShape.Proofs.Pattern.Language
import JsonShape.TextFormat.Expression

/-!
# The parts of expressions

The expression of a format reads as a sequence of parts between the start and the end of a text
(`ofText?_expression`), and no part has conditions on where it stands. So the texts that an expression
fits are the product of the languages of its parts (`fitsExpression_iff`).
-/

set_option autoImplicit false

namespace JsonShape

open Pattern

namespace TextFormat

/-! ## Labels -/

/-- What may stand within a label. -/
def labelSet : CharSet := .anyOf [.upper, .lower, .asciiDigits, .single '-']

/-- A label, part by part. -/
def labelParts : List Pattern :=
  [one .alnum, optional (sequence [repeated (one labelSet) 0 (some 61), one .alnum])]

/-- The parts of a host name. -/
def hostnameParts : List Pattern :=
  [repeated (sequence (labelParts ++ [char '.'])) 1 none, repeated (one .letters) 2 (some 61)]

/-- What may stand before the `@` of an address. -/
def mailboxSet : CharSet :=
  .anyOf ([.upper, .lower, .asciiDigits] ++ (".!#$%&'*+/=?^_`\x7b|\x7d~-".toList.map .single))

/-- The parts of an e-mail address. -/
def emailParts : List Pattern :=
  [repeated (one mailboxSet) 1 none, char '@'] ++ labelParts ++
    [repeated (sequence (char '.' :: labelParts)) 1 none]

/-! ## Digits -/

/-- Groups of characters of one set, of given sizes, with a separator between. -/
def groupParts (set : CharSet) (separator : Char) (sizes : List Nat) : List Pattern :=
  (sizes.map (times (one set))).intersperse (char separator)

/-- The parts of a phone number. -/
def phoneParts : List Pattern :=
  [char '+', one (.anyOf [.range '1' '9']), repeated (one .digits) 6 (some 8)]

/-! ## Dates and times -/

/-- The parts of a date. -/
def dateParts : List Pattern := groupParts .digits '-' [4, 2, 2]

/-- The parts of a clock. -/
def clockParts : List Pattern := groupParts .digits ':' [2, 2, 2]

/-- A fraction, or none. -/
def fractionPattern : Pattern :=
  optional (sequence [char '.', repeated (one .digits) 1 none])

/-- The parts of an offset. -/
def offsetParts : List Pattern :=
  [one (.anyOf [.single '+', .single '-']), times (one .digits) 2, optional (char ':'),
    times (one .digits) 2]

/-- A zone, or none. -/
def zonePattern : Pattern :=
  optional (either (sequence [one (.anyOf [.single 'Z', .single 'z'])]) (sequence offsetParts))

/-- The parts of a time. -/
def timeParts : List Pattern := [sequence clockParts, fractionPattern, zonePattern]

/-- The parts of a date-time. -/
def dateTimeParts : List Pattern :=
  [sequence dateParts, one (.anyOf [.single 'T', .single 't', .single ' '])] ++ timeParts

/-! ## Expressions -/

/-- The parts of the expression of a format. -/
def expressionParts? : TextFormat → Option (List Pattern)
  | uuid => some (groupParts .hex '-' [8, 4, 4, 4, 12])
  | email => some emailParts
  | dateTime => some dateTimeParts
  | date => some dateParts
  | time => some timeParts
  | phone => some phoneParts
  | hostname => some hostnameParts
  | uri | ipv4 | ipv6 | country | currency => none

/-- Every expression reads as its parts, from the start of a text to its end. -/
theorem ofText?_expression (format : TextFormat) :
    format.expression?.bind ofText? = format.expressionParts?.map whole := by
  cases format <;> decide +kernel

theorem isPlain_of_mem_expressionParts (format : TextFormat) :
    ∀ parts ∈ format.expressionParts?, ∀ p ∈ parts, p.isPlain = true := by
  cases format <;> decide

/-- An expression fits the texts that its parts have together. -/
theorem fitsExpression_iff {format : TextFormat} {parts : List Pattern}
    (h : format.expressionParts? = some parts) {s : String} :
    format.fitsExpression s = true ↔ s.toList ∈ (parts.map language).prod := by
  rw [fitsExpression, ofText?_expression, h, Option.map_some, Option.any_some,
    isFoundIn_whole (isPlain_of_mem_expressionParts format parts h)]

end TextFormat

end JsonShape
