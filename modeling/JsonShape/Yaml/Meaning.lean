import JsonShape.Double
import JsonShape.Text.Ascii
import JsonShape.Yaml

/-!
# What plain scalars mean

A scalar without quotes may stand for null, a flag or a number rather than for its text. A text that
would be taken for one of these has to be quoted.
-/

set_option autoImplicit false

namespace JsonShape

namespace Yaml

/-- Whether a plain scalar stands for null. -/
def isNull (text : String) : Bool :=
  text.isEmpty || ["null", "Null", "NULL", "~"].contains text

/-- The flag that a plain scalar stands for. -/
def flag? (text : String) : Option Bool :=
  if ["true", "True", "TRUE"].contains text then some true
  else if ["false", "False", "FALSE"].contains text then some false
  else none

/-- The words that other versions of YAML take for flags. -/
def oldFlags : List String :=
  ["y", "Y", "yes", "Yes", "YES", "n", "N", "no", "No", "NO", "true", "True", "TRUE", "false",
    "False", "FALSE", "on", "On", "ON", "off", "Off", "OFF"]

/-! ## Numbers -/

/-- The base that the letter after a zero tells, and the digits after it. -/
def radix? : List Char → Option (Nat × List Char)
  | '0' :: 'x' :: digits => some (16, digits)
  | '0' :: 'o' :: digits => some (8, digits)
  | '0' :: 'b' :: digits => some (2, digits)
  | _ => none

/-- Whether digits with the letter of their base before them are an integer of up to 128 bits. -/
def isRadixInteger (cs : List Char) : Bool :=
  let (negative, digits) := match cs with
    | '+' :: rest => (false, rest)
    | '-' :: rest => (true, rest)
    | rest => (false, rest)
  match (radix? digits).bind fun (base, digits) =>
      if digits.isEmpty then none else radixValue? base digits with
  | some n => if negative then n ≤ 1 <<< 127 else n < 1 <<< 128
  | none => false

/-- The characters of a decimal after its sign: digits with a point somewhere among them or not, and
maybe an exponent. -/
def decimal? (cs : List Char) : Option (List Char × List Char × Int) := do
  let (whole, rest) := cs.span isAsciiDigit
  let (fraction, rest) := match rest with
    | '.' :: rest => rest.span isAsciiDigit
    | rest => ([], rest)
  if whole.isEmpty && fraction.isEmpty then none
  match rest with
  | [] => some (whole, fraction, 0)
  | e :: rest =>
    if e = 'e' ∨ e = 'E' then
      let (negative, digits) := match rest with
        | '+' :: digits => (false, digits)
        | '-' :: digits => (true, digits)
        | digits => (false, digits)
      if digits.isEmpty || !digits.all isAsciiDigit then none
      else some (whole, fraction, Double.signed negative (digitsValue digits))
    else none

/-- Whether characters are a decimal within the range of doubles. -/
def isDecimal (cs : List Char) : Bool :=
  let digits := match cs with
    | '+' :: rest => rest
    | '-' :: rest => rest
    | rest => rest
  match decimal? digits with
  | some (whole, fraction, exponent) =>
    (Double.ofDecimal false (digitsValue (whole ++ fraction))
      (exponent - fraction.length)).isFinite
  | none => false

/-- The words for the doubles that are not finite. -/
def notFinite : List String :=
  [".inf", ".Inf", ".INF", "+.inf", "+.Inf", "+.INF", "-.inf", "-.Inf", "-.INF", ".nan", ".NaN",
    ".NAN"]

/-- Whether a text looks like a number, even if only because it consists of digits. -/
def isNumeric (text : String) : Bool :=
  isRadixInteger text.toList || isDecimal text.toList || notFinite.contains text

/-- Whether a plain scalar of this text would, or might elsewhere, be taken for something else. -/
def isAmbiguous (text : String) : Bool :=
  isNull text || oldFlags.contains text || isNumeric text

end Yaml

end JsonShape
