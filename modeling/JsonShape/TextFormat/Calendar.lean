import JsonShape.Text.Ascii
import JsonShape.Text.Digit

/-!
# Dates and times

Dates are `YYYY-MM-DD` and name a day of the Gregorian calendar, which is taken to reach back to the
year 0. Times are `HH:MM:SS`, the second 60 included, with an optional fraction and an optional
zone: `Z` or an offset from UTC. Fraction and offset may have the digits of any script, and an
offset may have any two digits. A date-time is a date, one of `T`, `t` and a blank, and a time.
-/

set_option autoImplicit false

namespace JsonShape

namespace TextFormat

/-! ## Dates -/

/-- Whether a year has 366 days. -/
def isLeapYear (year : Nat) : Bool := year % 4 == 0 && (year % 100 != 0 || year % 400 == 0)

/-- The number of days of a month. -/
def daysInMonth (year month : Nat) : Nat :=
  match month with
  | 2 => if isLeapYear year then 29 else 28
  | 4 | 6 | 9 | 11 => 30
  | _ => 31

/-- Whether there is such a day. -/
def isDay (year month day : Nat) : Bool :=
  1 ≤ month && month ≤ 12 && 1 ≤ day && day ≤ daysInMonth year month

/-- Whether ten characters are a date. -/
def isDateChars : List Char → Bool
  | [a, b, c, d, '-', e, f, '-', g, h] =>
    [a, b, c, d, e, f, g, h].all isAsciiDigit &&
      isDay (digitsValue [a, b, c, d]) (digitsValue [e, f]) (digitsValue [g, h])
  | _ => false

/-- Whether a text is a date. -/
def isDate (s : String) : Bool := isDateChars s.toList

/-! ## Times -/

/-- Whether characters are a zone: none at all, `Z`, or a signed offset of four digits with or
without a colon in the middle. -/
def isZone : List Char → Bool
  | [] => true
  | ['Z'] => true
  | ['z'] => true
  | [s, a, b, ':', c, d] => (s == '+' || s == '-') && [a, b, c, d].all isDecimalDigit
  | [s, a, b, c, d] => (s == '+' || s == '-') && [a, b, c, d].all isDecimalDigit
  | _ => false

/-- Whether characters are what may follow the seconds: a fraction or none, and a zone. -/
def isTimeTail : List Char → Bool
  | '.' :: cs => match cs.span isDecimalDigit with
    | ([], _) => false
    | (_, zone) => isZone zone
  | cs => isZone cs

/-- Whether characters are a time. -/
def isTimeChars : List Char → Bool
  | a :: b :: ':' :: c :: d :: ':' :: e :: f :: tail =>
    [a, b, c, d, e, f].all isAsciiDigit &&
      digitsValue [a, b] ≤ 23 && digitsValue [c, d] ≤ 59 && digitsValue [e, f] ≤ 60 &&
      isTimeTail tail
  | _ => false

/-- Whether a text is a time. -/
def isTime (s : String) : Bool := isTimeChars s.toList

/-- Whether a text is a date-time. -/
def isDateTime (s : String) : Bool :=
  match s.toList.drop 10 with
  | c :: rest => (c == 'T' || c == 't' || c == ' ') && isDateChars (s.toList.take 10) &&
      isTimeChars rest
  | [] => false

end TextFormat

end JsonShape
