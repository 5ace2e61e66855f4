import JsonShape.Double.Scaled
import JsonShape.Json
import JsonShape.Text.Ascii

/-!
# Numerals

The spelling of a number in JSON and the number it denotes: without fraction and exponent an
integer, if 64 bits hold it, and otherwise a double. `-0` is the double `-0.0`, since an integer has
no sign of zero. A numeral beyond the range of doubles denotes nothing.

In a document that double is `Numeral.toDouble`: the leading digits as far as 64 bits hold them,
times or over a power of ten, each rounded. It may be a neighbour of the nearest one,
`Numeral.nearest`.
-/

set_option autoImplicit false

namespace JsonShape

/-- A numeral: the digits of its parts, its exponent's value. -/
structure Numeral where
  negative : Bool
  whole : List Char
  fraction : Option (List Char)
  exponent : Option Int

namespace Numeral

/-! ## Spelling -/

/-- One or more digits, and what follows them. -/
def digits? (cs : List Char) : Option (List Char × List Char) :=
  match cs.span isAsciiDigit with
  | ([], _) => none
  | found => some found

/-- A sign and digits: the exponent after its letter. -/
def exponent? : List Char → Option Int
  | '-' :: cs => match digits? cs with
    | some (ds, []) => some (-(digitsValue ds : Int))
    | _ => none
  | '+' :: cs => match digits? cs with
    | some (ds, []) => some (digitsValue ds)
    | _ => none
  | cs => match digits? cs with
    | some (ds, []) => some (digitsValue ds)
    | _ => none

/-- A numeral after its whole part and fraction: its end or an exponent. -/
def scale? (negative : Bool) (whole : List Char) (fraction : Option (List Char)) :
    List Char → Option Numeral
  | [] => some ⟨negative, whole, fraction, none⟩
  | c :: cs =>
    if c = 'e' ∨ c = 'E' then (exponent? cs).map fun e => ⟨negative, whole, fraction, some e⟩
    else none

/-- A numeral after its sign: a whole part without needless zeros, then a fraction if a point
follows. -/
def unsigned? (negative : Bool) (cs : List Char) : Option Numeral := do
  let (whole, rest) ← digits? cs
  if whole.head? = some '0' ∧ whole.length ≠ 1 then none
  match rest with
  | '.' :: rest => do
    let (fraction, rest) ← digits? rest
    scale? negative whole (some fraction) rest
  | rest => scale? negative whole none rest

/-- The numeral that characters spell, if they spell one. -/
def ofChars? : List Char → Option Numeral
  | '-' :: cs => unsigned? true cs
  | cs => unsigned? false cs

/-! ## Value -/

/-- The double nearest to what a numeral spells. -/
def nearest (n : Numeral) : Double :=
  let fraction := n.fraction.getD []
  Double.ofDecimal n.negative (digitsValue (n.whole ++ fraction))
    (n.exponent.getD 0 - fraction.length)

/-- A value with digits after it, as long as it has at most 64 bits, and the digits left over. -/
def accumulate (value : Nat) : List Char → Nat × List Char
  | [] => (value, [])
  | c :: cs =>
    let longer := 10 * value + digitValue c
    if longer < 0x10000000000000000 then accumulate longer cs else (value, c :: cs)

/-- The leading digits of a numeral, and the power of ten that they are to be scaled by. A digit of
the whole part that is left out counts for the power, and one of the fraction is dropped. -/
def significand (n : Numeral) : Nat × Int :=
  let fraction := n.fraction.getD []
  let (whole, beyond) := accumulate 0 n.whole
  let (value, dropped) := accumulate whole fraction
  (value, n.exponent.getD 0 + beyond.length - (fraction.length - dropped.length))

/-- The double that a numeral is read as: its leading digits, scaled in double arithmetic. -/
def toDouble (n : Numeral) : Double :=
  let (digits, exponent) := n.significand
  (Double.scaled digits exponent).withSign n.negative

/-- The integer that a numeral without fraction and exponent spells; `-0` is none. -/
def toInt? (n : Numeral) : Option Int :=
  match n.fraction, n.exponent with
  | none, none =>
    let value := digitsValue n.whole
    if n.negative then if value = 0 then none else some (-value) else some value
  | _, _ => none

/-- The number that a numeral denotes, given how what is no integer is read. -/
def numberBy? (double : Numeral → Double) (n : Numeral) : Option Number :=
  match n.toInt?.bind Number.ofInt? with
  | some integer => some integer
  | none => Number.ofDouble? (double n)

/-- The number that a numeral denotes in a document. -/
def number? : Numeral → Option Number := numberBy? toDouble

/-- The number that a numeral denotes where doubles are rounded once only. -/
def nearestNumber? : Numeral → Option Number := numberBy? nearest

end Numeral

end JsonShape
