import JsonShape.Text.Ascii
import JsonShape.Text.Fields

/-!
# Internet addresses

IPv4 addresses are four numbers up to 255 without needless zeros. IPv6 addresses are eight groups of
one to four hexadecimal digits; one `::` may stand for one or more groups of zeros, and an IPv4
address may stand for the last two.
-/

set_option autoImplicit false

namespace JsonShape

namespace TextFormat

/-- Whether characters are a number up to 255 without needless zeros. -/
def isOctet (cs : List Char) : Bool :=
  !cs.isEmpty && cs.length ≤ 3 && cs.all isAsciiDigit && (cs.head? != some '0' || cs.length == 1) &&
    digitsValue cs ≤ 255

/-- Whether characters are an IPv4 address. -/
def isIpv4Chars (cs : List Char) : Bool :=
  let parts := fields '.' cs
  parts.length == 4 && parts.all isOctet

/-- Whether a text is an IPv4 address. -/
def isIpv4 (s : String) : Bool := isIpv4Chars s.toList

/-- Whether characters are one group of an IPv6 address. -/
def isGroup (cs : List Char) : Bool :=
  !cs.isEmpty && cs.length ≤ 4 && cs.all fun c => (hexDigit? c).isSome

/-- How many groups the parts between colons stand for, if they are groups; an IPv4 address may come
last where `tail` says that the address ends here. -/
def groupCount? (tail : Bool) : List (List Char) → Option Nat
  | [] => some 0
  | [part] =>
    if isGroup part then some 1 else if tail && isIpv4Chars part then some 2 else none
  | part :: parts => if isGroup part then (groupCount? tail parts).map (· + 1) else none

/-- The number of groups on one side of a `::`; that side may be empty. -/
def sideCount? (tail : Bool) (cs : List Char) : Option Nat :=
  if cs.isEmpty then some 0 else groupCount? tail (fields ':' cs)

/-- A text cut at its first `::`. -/
def cutAtGap : List Char → Option (List Char × List Char)
  | ':' :: ':' :: cs => some ([], cs)
  | c :: cs => (cutAtGap cs).map fun (front, back) => (c :: front, back)
  | [] => none

/-- Whether characters are an IPv6 address. -/
def isIpv6Chars (cs : List Char) : Bool :=
  match cutAtGap cs with
  | none => groupCount? true (fields ':' cs) == some 8
  | some (front, back) =>
    match sideCount? false front, sideCount? true back with
    | some m, some n => m + n ≤ 7
    | _, _ => false

/-- Whether a text is an IPv6 address. -/
def isIpv6 (s : String) : Bool := isIpv6Chars s.toList

end TextFormat

end JsonShape
